import BuildAdmission.Proofs.Session.Admission
import BuildAdmission.Proofs.Session.Alteration
import BuildAdmission.Proofs.Session.Tickets

namespace BuildAdmission

/-- What a unit is asked to run, and how urgently. -/
structure Commission where
  task : LaunchTask
  priority : Int32
  deriving DecidableEq

/-- What a call asks of a unit: a request for a slot that was not turned away. -/
def Call.asked? {σ : Type} (c : Call σ) (id : UnitId) : Option Commission :=
  match c.command, c.answer with
  | .requestLaunch k task priority, .ok (.launched (.admitted _))
  | .requestLaunch k task priority, .ok (.launched (.queued _)) =>
    if id = k then some ⟨task, priority⟩ else none
  | _, _ => none

def Call.lastAsked? {σ : Type} (calls : List (Call σ)) (id : UnitId) : Option Commission :=
  calls.foldl (fun last c => (c.asked? id).or last) none

namespace Scheduler

variable {s : Scheduler} {f : UnitId → Option Commission} {id : UnitId} {u : WorkUnit}

/-- Every launch that waits, and every run, is what was last asked of its unit. -/
structure Commissioned (f : UnitId → Option Commission) (s : Scheduler) : Prop where
  waiting : ∀ l ∈ s.queue.entries, f l.unitId = some ⟨l.task, l.priority⟩
  running : ∀ id r, s.running.find? id = some r →
    ∃ u, s.graph.unit? id = some u ∧ f id = some ⟨r.task, u.priority⟩

/-- What an active unit runs now, or is to be run with. -/
def commission? (s : Scheduler) (id : UnitId) : Option Commission :=
  match s.running.find? id with
  | some r => (s.graph.unit? id).map fun u => ⟨r.task, u.priority⟩
  | none => (s.queue.entries.find? (·.unitId = id)).map fun l => ⟨l.task, l.priority⟩

theorem Commissioned.commission? (h : s.Commissioned f) (kept : s.Kept)
    (live : s.graph.unit? id = some u) (active : u.status.isActive = true) :
    s.commission? id = f id ∧ f id ≠ none := by
  rw [Scheduler.commission?]
  cases slot : s.running.find? id with
  | some r =>
      obtain ⟨v, live', asked⟩ := h.running id r slot
      simp [live', asked]
  | none =>
      have queued : u.status = .queued := by
        have either : u.status = .queued ∨ u.status = .running := by
          simpa [Status.isActive] using active
        refine either.resolve_right fun runs => ?_
        obtain ⟨r, held⟩ := kept.running_iff.2 ⟨u, live, runs⟩
        cases slot.symm.trans held
      obtain ⟨l, hl, named, _⟩ := (kept.queue.waiting id u.priority).2
        (Graph.standing_queued_iff.2 ⟨u, live, queued, rfl⟩)
      cases found : s.queue.entries.find? (·.unitId = id) with
      | none => exact absurd named (by simpa using List.find?_eq_none.1 found l hl)
      | some l =>
          have first : l.unitId = id := by simpa using List.find?_some found
          have asked := h.waiting l (List.mem_of_find?_eq_some found)
          rw [first] at asked
          simp [asked]

end Scheduler

namespace Event

/-- The event gives the unit a task, and a place in the queue or a slot. -/
def Begins (id : UnitId) : Event → Prop
  | enqueue i _ | grant i _ => i = id
  | _ => False

/-- If the unit is active then it has that priority. -/
def Ranked (p : Option Int32) (unit : Option WorkUnit) : Prop :=
  ∀ u, unit = some u → u.status.isActive = true → p = some u.priority

variable {id : UnitId} {e : Event} {old new : Option WorkUnit} {notes : List AuditAction}
  {p : Option Int32}

theorem ranked_of_idle {u : WorkUnit} (idle : u.status.isActive = false) : Ranked p (some u) := by
  rintro _ ⟨⟩ active
  cases idle.symm.trans active

/-- Only what begins a unit makes it active, and while it is active its priority stays. -/
theorem Alters.ranked (h : e.Alters id old notes new)
    (begins : e.Begins id → ∀ u, old = some u → p = some u.priority) (hold : Ranked p old) :
    Ranked p new := by
  cases h with
  | spared | expired => exact hold
  | archived | replaced => exact nofun
  | registered named status =>
      refine ranked_of_idle ?_
      rcases status with status | status <;> exact congrArg Status.isActive status
  | parted | reset | withdrawn | blocked | demoted | suspended | completed | failed =>
      exact ranked_of_idle rfl
  | prioritised idle => exact ranked_of_idle (WorkUnit.isActive_of_idle idle)
  | refused idle => exact ranked_of_idle (WorkUnit.isActive_of_idle idle)
  | connected | resized | rewired =>
      rintro _ ⟨⟩ active
      have known := hold _ rfl active
      exact known
  | enqueued | granted =>
      rintro _ ⟨⟩ _
      have known := begins rfl _ rfl
      exact known
  | promoted status | retried status =>
      rintro _ ⟨⟩ _
      have known := hold _ rfl (congrArg Status.isActive status)
      exact known

theorem assign_of_quiet (h : ∀ id, ¬ e.Begins id) (f : UnitId → Option LaunchTask) :
    e.assign f = f := by
  cases e with
  | enqueue id => exact absurd rfl (h id)
  | grant id => exact absurd rfl (h id)
  | _ => rfl

theorem foldl_assign_quiet {es : List Event} (h : ∀ e ∈ es, ∀ id, ¬ e.Begins id)
    (f : UnitId → Option LaunchTask) : es.foldl Event.assign f = f :=
  List.foldlRecOn es Event.assign (motive := (· = f)) rfl fun g same e he =>
    (assign_of_quiet (h e he) g).trans same

theorem not_begins_of_internal (h : e.isRequest = false) (id : UnitId) : ¬ e.Begins id := by
  cases e <;> first | exact fun begins => begins | cases h

end Event

namespace Session

open Call Event Scheduler

variable {σ : Type} [Storage σ] {m n s t : Session σ} {e : Event} {es : List Event}
  {calls : List (Call σ)} {a : Admission} {c : Command} {id : UnitId} {p : Option Int32}

theorem Trace.ranked (h : Trace m es n) (kept : m.scheduler.Kept) (quiet : ∀ e ∈ es, ¬ e.Begins id)
    (hm : Ranked p (m.scheduler.graph.unit? id)) : Ranked p (n.scheduler.graph.unit? id) := by
  induction h with
  | nil => exact hm
  | cons step rest ih =>
      obtain ⟨he, hes⟩ := List.forall_mem_cons.1 quiet
      obtain ⟨_, alters, _⟩ := step.alters kept id
      exact ih (step.kept kept) hes (alters.ranked (fun begins => absurd begins he) hm)

omit [Storage σ] in
theorem lastAsked?_snoc (calls : List (Call σ)) (c : Call σ) (id : UnitId) :
    lastAsked? (calls ++ [c]) id = (c.asked? id).or (lastAsked? calls id) :=
  List.foldl_append ..

omit [Storage σ] in
theorem task?_eq (c : Call σ) (id : UnitId) : c.task? id = (c.asked? id).map (·.task) := by
  obtain ⟨before, command, answer, after⟩ := c
  cases command with
  | requestLaunch k task priority =>
      by_cases hid : id = k
      · rcases answer with _ | _ | _ | ⟨_ | _⟩ <;> simp [task?, asked?, hid]
      · rcases answer with _ | _ | _ | ⟨_ | _⟩ <;> simp [task?, asked?, hid]
  | _ => rfl

omit [Storage σ] in
theorem lastTask?_eq (calls : List (Call σ)) (id : UnitId) :
    lastTask? calls id = (lastAsked? calls id).map (·.task) := by
  induction calls using List.reverseRecOn with
  | nil => rfl
  | append_singleton calls c ih =>
      rw [lastTask?_snoc, lastAsked?_snoc, ih, task?_eq]
      cases c.asked? id <;> rfl

theorem asked?_of_not_request (h : ¬ c.IsRequest) (s : Session σ) (id : UnitId) :
    (s.call c).asked? id = none := by
  cases c with
  | requestLaunch => exact absurd trivial h
  | _ => rfl

/-- The unit, if it is active, has the priority that was last asked. -/
def RankedBy (calls : List (Call σ)) (m : Session σ) : Prop :=
  ∀ id, Ranked ((lastAsked? calls id).map (·.priority)) (m.scheduler.graph.unit? id)

omit [Storage σ] in
/-- The tasks and the priorities are known apart, and come from the same request. -/
theorem commissioned (kept : m.scheduler.Kept) (assigned : m.scheduler.Assigned (lastTask? calls))
    (ranked : RankedBy calls m) : m.scheduler.Commissioned (lastAsked? calls) := by
  have both {id : UnitId} {task : LaunchTask} {priority : Int32}
      (htask : lastTask? calls id = some task)
      (hpriority : (lastAsked? calls id).map (·.priority) = some priority) :
      lastAsked? calls id = some ⟨task, priority⟩ := by
    rw [lastTask?_eq] at htask
    obtain ⟨asked, hasked, rfl⟩ := Option.map_eq_some_iff.1 htask
    rw [hasked, Option.map_some] at hpriority
    cases hpriority
    exact hasked
  constructor
  · intro l hl
    obtain ⟨u, live, queued, same⟩ := kept.taken hl
    have priority := ranked l.unitId u live (congrArg Status.isActive queued)
    exact both (assigned.waiting l hl) (same ▸ priority)
  · intro id r slot
    obtain ⟨u, live, runs⟩ := kept.running_iff.1 ⟨r, slot⟩
    exact ⟨u, live, both (assigned.running id r slot)
      (ranked id u live (congrArg Status.isActive runs))⟩

/-! ### Requests -/

/-- A unit has the priority of its request when the request is answered. -/
theorem Trace.prioritised {priority : Int32} (h : Trace m (.prioritise id priority :: e :: es) n) :
    ∃ before after u, Step m (.prioritise id priority) before ∧ Step before e after ∧
      Trace after es n ∧ before.scheduler.graph.unit? id = some u ∧ u.priority = priority ∧
      (u.status = .pending ∨ u.status = .checkpointed) := by
  cases h with
  | cons first rest =>
      cases rest with
      | cons second last =>
          cases first with
          | prioritise live idle =>
              exact ⟨_, _, _, .prioritise live idle, second, last,
                Graph.unit?_update_self live, rfl, idle⟩

/-- A request that is not turned away begins the unit with the priority that was asked. -/
theorem Trace.ranked_begun {priority : Int32}
    (h : Trace m [.prioritise id priority, e, .flush] n) (kept : m.scheduler.Kept) :
    Ranked (some priority) (n.scheduler.graph.unit? id) := by
  obtain ⟨before, after, u, first, second, last, live, rfl, idle⟩ := h.prioritised
  obtain ⟨_, alters, _⟩ := second.alters (first.kept kept) id
  rw [live] at alters
  refine last.ranked (second.kept (first.kept kept)) (by simp [Begins]) (alters.ranked ?_ ?_)
  · rintro _ _ ⟨⟩
    rfl
  · exact ranked_of_idle (WorkUnit.isActive_of_idle idle)

theorem call_ranked (kept : t.scheduler.Kept) (ht : RankedBy calls t) (c : Command) :
    RankedBy (calls ++ [t.call c]) (t.call c).after := by
  intro k
  rw [lastAsked?_snoc]
  by_cases request : c.IsRequest
  · cases c with
    | requestLaunch id task priority =>
        obtain ⟨answer, es, launched, answered, trace⟩ := perform_requestLaunch id task priority t
        have turned (away : (t.call (.requestLaunch id task priority)).asked? k = none)
            (quiet : ∀ e ∈ es, ¬ e.Begins k) : Ranked
              ((((t.call (.requestLaunch id task priority)).asked? k).or
                (lastAsked? calls k)).map (·.priority))
              ((t.call (.requestLaunch id task priority)).after.scheduler.graph.unit? k) := by
          rw [away]
          exact trace.ranked kept quiet (ht k)
        cases launched with
        | unknown | busy | blocked | refused | unread =>
            exact turned (by rw [asked?, answered]; rfl) (by simp [Begins])
        | queued | admitted =>
            have asked : (t.call (.requestLaunch id task priority)).asked? k =
                if k = id then some ⟨task, priority⟩ else none := by
              rw [asked?, answered]
              rfl
            by_cases hk : k = id
            · subst hk
              rw [asked, if_pos rfl]
              exact trace.ranked_begun kept
            · exact turned (asked.trans (if_neg hk)) (by simp [Begins, Ne.symm hk])
    | _ => cases request
  · obtain ⟨es, account⟩ := perform_account c request t
    rw [asked?_of_not_request request]
    exact account.trace.ranked kept
      (fun e he => not_begins_of_internal (account.internal e he) k) (ht k)

theorem Opened.ranked (h : Opened s) : RankedBy ([] : List (Call σ)) s := by
  intro id u live active
  have rests := congrFun h.started.rests id
  have stands := Graph.standing_eq_some_iff.2 ⟨active, u, live, rfl, rfl⟩
  cases rests.symm.trans stands

theorem Run.ranked (run : Run s calls t) (opened : Opened s) : RankedBy calls t := by
  induction run with
  | nil => exact opened.ranked
  | wait rest clock date ih => exact ih
  | call rest c ih => exact call_ranked (rest.kept opened) ih c

/-- What was last asked holds until the next unit is begun. -/
theorem Trace.commissioned (h : Trace t es m) (kept : t.scheduler.Kept)
    (assigned : t.scheduler.Assigned (lastTask? calls)) (ranked : RankedBy calls t)
    (quiet : ∀ e ∈ es, ∀ id, ¬ e.Begins id) : m.scheduler.Commissioned (lastAsked? calls) := by
  have assigned' := h.assigned kept assigned
  rw [foldl_assign_quiet quiet] at assigned'
  exact BuildAdmission.Session.commissioned (h.kept kept) assigned' fun id =>
    h.ranked kept (fun e he => quiet e he id) (ranked id)

theorem Run.commissioned (run : Run s calls t) (opened : Opened s) :
    t.scheduler.Commissioned (lastAsked? calls) :=
  Trace.nil.commissioned (run.kept opened) (run.assigned opened) (run.ranked opened) (by simp)

/-! ### Admissions -/

theorem Step.commission_promote {f : UnitId → Option Commission} (h : Step m (.promote id a) n)
    (kept : m.scheduler.Kept) (hm : m.scheduler.Commissioned f) :
    f a.unit.id = some ⟨a.task, a.unit.priority⟩ := by
  cases h with
  | @promote launch queue u latest storage room pop live queued gate read =>
      have waits : launch ∈ m.scheduler.queue.entries :=
        (AdmissionQueue.pop?_entries pop).1.mem_iff.2 List.mem_cons_self
      obtain ⟨v, live', _, same⟩ := kept.taken waits
      cases live.symm.trans live'
      have known := hm.waiting launch waits
      rw [← kept.keyed.live _ _ live, ← same] at known
      exact known

theorem request_commission (kept : t.scheduler.Kept) (request : c.IsRequest)
    (ha : a ∈ (t.call c).given) :
    (t.call c).asked? a.unit.id = some ⟨a.task, a.unit.priority⟩ := by
  cases c with
  | requestLaunch id task priority =>
      obtain ⟨answer, es, launched, answered, trace⟩ := perform_requestLaunch id task priority t
      rw [Call.given, answered] at ha
      cases launched with
      | admitted asked =>
          obtain rfl := List.mem_singleton.1 ha
          obtain ⟨before, _, u, first, second, _, live, same, _⟩ := trace.prioritised
          cases second with
          | grant live' =>
              cases live.symm.trans live'
              rw [asked?, answered]
              cases (first.kept kept).keyed.live _ _ live
              cases asked
              cases same
              exact if_pos rfl
      | _ => cases ha
  | _ => cases request

theorem promotion_commission (kept : t.scheduler.Kept)
    (assigned : t.scheduler.Assigned (lastTask? calls)) (ranked : RankedBy calls t)
    (request : ¬ c.IsRequest) (ha : a ∈ (t.call c).given) :
    lastAsked? calls a.unit.id = some ⟨a.task, a.unit.priority⟩ := by
  obtain ⟨es, account⟩ := perform_account c request t
  cases answered : (t.call c).answer with
  | error refusal =>
      rw [Call.given, answered] at ha
      cases ha
  | ok answer =>
      rw [Call.given, answered] at ha
      have ha : a ∈ answer.admissions := ha
      rw [account.given answer answered] at ha
      obtain ⟨e, he, made⟩ := List.mem_filterMap.1 ha
      obtain ⟨es₁, es₂, before, after, rfl, front, step, _⟩ := account.trace.at_mem he
      have internal := account.internal e he
      cases e with
      | promote id b =>
          cases made
          refine step.commission_promote (front.kept kept)
            (front.commissioned kept assigned ranked fun d hd id => ?_)
          exact not_begins_of_internal (account.internal d (List.mem_append_left _ hd)) id
      | grant => cases internal
      | _ => cases made

/-- An active unit is asked nothing else. -/
theorem asked?_of_active {u : WorkUnit} (live : t.scheduler.graph.unit? id = some u)
    (active : u.status.isActive = true) (c : Command) : (t.call c).asked? id = none := by
  by_cases request : c.IsRequest
  · cases c with
    | requestLaunch k task priority =>
        obtain ⟨answer, es, launched, answered, trace⟩ := perform_requestLaunch k task priority t
        by_cases hk : id = k
        · subst hk
          cases launched with
          | queued | admitted =>
              obtain ⟨_, _, _, first, _⟩ := trace.prioritised
              cases first with
              | prioritise live' idle =>
                  cases live.symm.trans live'
                  cases active.symm.trans (WorkUnit.isActive_of_idle idle)
          | _ => rw [asked?, answered]; rfl
        · rw [asked?, answered]
          cases launched <;> first | rfl | exact if_neg hk
    | _ => cases request
  · exact asked?_of_not_request request t id

/-- A unit is only ever queued and run with the task and the priority of the last request that was
not turned away: every launch in the queue, every run and every admission has them. While a unit is
active nothing changes what it is to be run with. -/
theorem Run.launches_faithful (run : Run s calls t) (opened : Opened s) :
    (∀ es m, Trace t es m → (∀ e ∈ es, ∀ id, ¬ e.Begins id) →
        m.scheduler.Commissioned (lastAsked? calls)) ∧
      ∀ c : Command,
        (∀ a ∈ (t.call c).given,
          lastAsked? (calls ++ [t.call c]) a.unit.id = some ⟨a.task, a.unit.priority⟩) ∧
        ∀ id u, t.scheduler.graph.unit? id = some u → u.status.isActive = true →
          (t.call c).asked? id = none ∧ t.scheduler.commission? id = lastAsked? calls id ∧
          lastAsked? calls id ≠ none ∧
          ∀ v, (t.call c).after.scheduler.graph.unit? id = some v → v.status.isActive = true →
            (t.call c).after.scheduler.commission? id = t.scheduler.commission? id := by
  have kept := run.kept opened
  have assigned := run.assigned opened
  have ranked := run.ranked opened
  refine ⟨fun es m trace quiet => trace.commissioned kept assigned ranked quiet, fun c => ⟨?_, ?_⟩⟩
  · intro a ha
    rw [lastAsked?_snoc]
    by_cases request : c.IsRequest
    · rw [request_commission kept request ha]
      rfl
    · rw [asked?_of_not_request request, Option.none_or]
      exact promotion_commission kept assigned ranked request ha
  · intro id u live active
    have unasked := asked?_of_active live active c
    obtain ⟨before, known⟩ := (run.commissioned opened).commission? kept live active
    refine ⟨unasked, before, known, fun v live' active' => ?_⟩
    have next := run.call c
    obtain ⟨after, _⟩ := (next.commissioned opened).commission? (next.kept opened) live' active'
    rw [after, before, lastAsked?_snoc, unasked, Option.none_or]

/-- `lib` is asked for a second time while it runs, which is refused. -/
def insistentCalls : List Command :=
  retriedCalls.dropLast ++ [.requestLaunch "lib" ⟨"test", 1000⟩ 7]

def insistent : Session Vault := narrow.callAll insistentCalls

theorem launches_faithful_insistent : Run narrow (narrow.callsOf insistentCalls) insistent ∧
    (insistent.call (.failed "lib" "crashed")).given.map (·.unit.id) = ["lib"] ∧
    ∀ a ∈ (insistent.call (.failed "lib" "crashed")).given,
      a.task = ⟨"build", 1000⟩ ∧ a.unit.priority = 3 := by
  have run : Run narrow (narrow.callsOf insistentCalls) insistent := run_callAll narrow insistentCalls
  have given : (insistent.call (.failed "lib" "crashed")).given.map (·.unit.id) = ["lib"] := by
    decide +kernel
  have asked : lastAsked? (narrow.callsOf insistentCalls) "lib" = some ⟨⟨"build", 1000⟩, 3⟩ := by
    decide +kernel
  refine ⟨run, given, fun a ha => ?_⟩
  have same := ((run.launches_faithful opened_narrow).2 (.failed "lib" "crashed")).1 a ha
  have named : a.unit.id = "lib" := by
    have mem := List.mem_map_of_mem (f := fun a : Admission => a.unit.id) ha
    rw [given] at mem
    exact List.mem_singleton.1 mem
  rw [lastAsked?_snoc, named, asked] at same
  have same : Commission.mk ⟨"build", 1000⟩ 3 = ⟨a.task, a.unit.priority⟩ := Option.some.inj same
  obtain ⟨task, priority⟩ := Commission.mk.inj same
  exact ⟨task.symm, priority.symm⟩

end Session

end BuildAdmission
