import BuildAdmission.Proofs.Session.Script

namespace BuildAdmission

variable {s s' : Scheduler} {id : UnitId} {task : LaunchTask} {f : UnitId → Option LaunchTask}

namespace Scheduler

theorem gate_eq_passed_iff {u : WorkUnit} : s.gate u task = .passed ↔ s.graph.unmetOf u = [] ∧
    (s.budget.check u.declaredSize task.estimatedCost).refusal? = none := by
  rw [gate]
  cases s.graph.unmetOf u with
  | cons => simp
  | nil =>
      cases hrefusal : (s.budget.check u.declaredSize task.estimatedCost).refusal? <;>
        simp [hrefusal]

theorem gate_eq_passed {u : WorkUnit} (ascending : s.budget.thresholds.Ascending)
    (h : s.gate u task = .passed) :
    (∀ d ∈ u.dependencies, ∃ v, s.graph.unit? d = some v ∧ v.status = .complete) ∧
      u.declaredSize < s.budget.thresholds.emergency ∧
      min (u.declaredSize.toNat + task.estimatedCost.toNat + s.budget.safetyMargin.toNat)
        (UInt64.size - 1) ≤ s.budget.hardLimit.toNat := by
  obtain ⟨met, unrefused⟩ := gate_eq_passed_iff.1 h
  exact ⟨Graph.unmetOf_eq_nil_iff.1 met, (Budget.check_refusal?_eq_none_iff ascending).1 unrefused⟩

/-! ### What the units were asked to do -/

/-- Every launch that waits, and every run, is of the task that its unit was last given. -/
structure Assigned (f : UnitId → Option LaunchTask) (s : Scheduler) : Prop where
  waiting : ∀ l ∈ s.queue.entries, f l.unitId = some l.task
  running : ∀ id r, s.running.find? id = some r → f id = some r.task

theorem Assigned.shrink (h : s.Assigned f) (queue : ∀ l ∈ s'.queue.entries, l ∈ s.queue.entries)
    (running : s'.running = s.running) : s'.Assigned f :=
  ⟨fun l hl => h.waiting l (queue l hl), running ▸ h.running⟩

theorem Assigned.edit (h : s.Assigned f) (graph : Graph) : { s with graph }.Assigned f :=
  ⟨h.waiting, h.running⟩

theorem Assigned.pop (h : s.Assigned f) {launch : QueuedLaunch} {queue : AdmissionQueue}
    (pop : s.queue.pop? = some (launch, queue)) : { s with queue }.Assigned f :=
  h.shrink
    (fun _ hl => (AdmissionQueue.pop?_entries pop).1.mem_iff.2 (List.mem_cons_of_mem _ hl)) rfl

theorem Assigned.release (h : s.Assigned f) (id : UnitId) (status : Status) :
    (s.release id status).Assigned f :=
  ⟨h.waiting, IdMap.forall_erase h.running⟩

theorem Assigned.start (h : s.Assigned f) (known : f id = some task) (now : Nat) :
    (s.start id task now).Assigned f :=
  ⟨h.waiting, IdMap.forall_insert h.running known⟩

theorem Assigned.enqueue (h : s.Assigned f) (known : f id = some task) (priority : Int32) :
    (s.enqueue id task priority).Assigned f := by
  refine ⟨?_, h.running⟩
  intro l hl
  rcases List.mem_cons.1 ((AdmissionQueue.enqueue_entries ..).mem_iff.1 hl) with rfl | hl
  · exact known
  · exact h.waiting l hl

theorem Assigned.update (h : s.Assigned f) (kept : s.Kept) (rests : s.graph.standing id = none)
    (task : LaunchTask) : s.Assigned (Function.update f id (some task)) := by
  constructor
  · intro l hl
    -- A unit at rest has neither a launch in the queue nor a slot.
    have hne : l.unitId ≠ id := by
      rintro rfl
      have waits := (kept.queue.waiting _ _).1 ⟨l, hl, rfl, rfl⟩
      rw [rests] at waits
      cases waits
    rw [Function.update_of_ne hne]
    exact h.waiting l hl
  · intro k r hr
    have hne : k ≠ id := by
      rintro rfl
      obtain ⟨p, runs⟩ := (kept.slots.held k).1 ⟨r, hr⟩
      rw [rests] at runs
      cases runs
    rw [Function.update_of_ne hne]
    exact h.running k r hr

end Scheduler

def Event.assign (f : UnitId → Option LaunchTask) : Event → UnitId → Option LaunchTask
  | enqueue id task => Function.update f id (some task)
  | grant id a => Function.update f id (some a.task)
  | _ => f

theorem Event.assign_of_internal {e : Event} (h : e.isRequest = false) : e.assign f = f := by
  cases e <;> first | rfl | cases h

namespace Session

open Scheduler

variable {σ : Type} [Storage σ] {m n s t : Session σ} {e : Event} {es : List Event}
  {calls : List (Call σ)} {a : Admission}

theorem Step.ascending (h : Step m e n) (hm : m.scheduler.budget.thresholds.Ascending) :
    n.scheduler.budget.thresholds.Ascending := by
  cases h with
  | retune valid => exact Budget.ascending_withThresholds valid
  | split =>
      rw [foldl_log_scheduler]
      exact hm
  | _ => exact hm

theorem Run.ascending (run : Run s calls t) (opened : Opened s) :
    t.scheduler.budget.thresholds.Ascending :=
  run.invariant (P := fun m => m.scheduler.budget.thresholds.Ascending)
    (fun _ _ _ step => step.ascending) (fun _ _ _ h => h) opened.started.ascending

theorem Step.assigned (h : Step m e n) (kept : m.scheduler.Kept) (hm : m.scheduler.Assigned f) :
    n.scheduler.Assigned (e.assign f) := by
  cases h with
  | withdraw live idle found =>
      obtain ⟨_, taken, _⟩ := AdmissionQueue.remove?_entries found
      exact hm.shrink (fun l hl => taken.mem_iff.2 (List.mem_cons_of_mem _ hl)) rfl
  | reinstate live idle found =>
      obtain ⟨_, taken, _⟩ := AdmissionQueue.remove?_entries found
      exact hm.shrink
        (fun l hl => taken.mem_iff.2 ((AdmissionQueue.requeue_entries ..).mem_iff.1 hl)) rfl
  | split live idle free accepted =>
      rw [foldl_log_scheduler]
      exact ⟨hm.waiting, hm.running⟩
  | enqueue live idle gate full behind =>
      have rests := Graph.standing_of_rest live (WorkUnit.isActive_of_idle idle)
      exact (hm.update kept rests _).enqueue (Function.update_self ..) _
  | grant live idle gate room read =>
      have rests := Graph.standing_of_rest live (WorkUnit.isActive_of_idle idle)
      exact (hm.update kept rests _).start (Function.update_self ..) _
  | promote room pop live queued gate read =>
      obtain ⟨taken, _⟩ := AdmissionQueue.pop?_entries pop
      have known := hm.waiting _ (taken.mem_iff.2 List.mem_cons_self)
      have popped := hm.pop pop
      exact popped.start known _
  | demote room pop live queued gate => exact ⟨(hm.pop pop).waiting, (hm.pop pop).running⟩
  | drop pop stale => exact hm.pop pop
  | stall room pop live queued gate read =>
      obtain ⟨taken, _⟩ := AdmissionQueue.pop?_entries pop
      exact hm.shrink
        (fun l hl => taken.mem_iff.2 ((AdmissionQueue.requeue_entries ..).mem_iff.1 hl)) rfl
  | suspend live status slot read saved => exact hm.release _ _
  | complete live status slot => exact hm.release _ _
  | @retry id u running reason live status slot tries =>
      rw [log_scheduler, change_scheduler, retry_eq]
      exact ((hm.release id .pending).edit _).enqueue (hm.running id running slot) _
  | fail live status slot tries => exact hm.release _ _
  | progress live status slot =>
      exact ⟨hm.waiting, IdMap.forall_modify hm.running fun _ _ same => same⟩
  | _ => exact ⟨hm.waiting, hm.running⟩

theorem Trace.assigned (h : Trace m es n) (kept : m.scheduler.Kept) (hm : m.scheduler.Assigned f) :
    n.scheduler.Assigned (es.foldl Event.assign f) := by
  induction h generalizing f with
  | nil => exact hm
  | cons step _ ih => exact ih (step.kept kept) (step.assigned kept hm)

end Session

/-- The task that a call gives to a unit: that of a request for a slot that was not turned away. -/
def Call.task? {σ : Type} (c : Call σ) (id : UnitId) : Option LaunchTask :=
  match c.command, c.answer with
  | .requestLaunch k task _, .ok (.launched (.admitted _))
  | .requestLaunch k task _, .ok (.launched (.queued _)) => if id = k then some task else none
  | _, _ => none

def Call.lastTask? {σ : Type} (calls : List (Call σ)) (id : UnitId) : Option LaunchTask :=
  calls.foldl (fun last c => (c.task? id).or last) none

namespace Session

variable {σ : Type} [Storage σ] {m n s t : Session σ} {e : Event} {es : List Event}
  {calls : List (Call σ)} {a : Admission} {c : Command}

open Call Scheduler

omit [Storage σ] in
theorem lastTask?_snoc (calls : List (Call σ)) (c : Call σ) (id : UnitId) :
    lastTask? (calls ++ [c]) id = (c.task? id).or (lastTask? calls id) :=
  List.foldl_append ..

theorem task?_of_not_request (h : ¬ c.IsRequest) (s : Session σ) (id : UnitId) :
    (s.call c).task? id = none := by
  cases c with
  | requestLaunch => exact absurd trivial h
  | _ => rfl

theorem task?_of_admitted {task : LaunchTask} {priority : Int32}
    (h : (s.call (.requestLaunch id task priority)).answer = .ok (.launched (.admitted a))) :
    (s.call (.requestLaunch id task priority)).task? id = some task := by
  rw [task?, h]
  exact if_pos rfl

theorem foldl_assign_internal (h : ∀ e ∈ es, e.isRequest = false) (f : UnitId → Option LaunchTask) :
    es.foldl Event.assign f = f :=
  List.foldlRecOn es Event.assign (motive := (· = f)) rfl fun _ same e he =>
    (Event.assign_of_internal (h e he)).trans same

theorem call_assigned (kept : t.scheduler.Kept) (h : t.scheduler.Assigned (lastTask? calls))
    (c : Command) : (t.call c).after.scheduler.Assigned (lastTask? (calls ++ [t.call c])) := by
  by_cases request : c.IsRequest
  · cases c with
    | requestLaunch id task priority =>
        obtain ⟨answer, es, launched, answered, trace⟩ := perform_requestLaunch id task priority t
        have assigned := trace.assigned kept h
        have same : es.foldl Event.assign (lastTask? calls) =
            lastTask? (calls ++ [t.call (.requestLaunch id task priority)]) := by
          funext k
          rw [lastTask?_snoc, task?, answered]
          cases launched with
          | queued =>
              by_cases hk : k = id
              · subst hk
                simp [Event.assign, call, Except.map]
              · simp [Event.assign, call, Except.map, hk]
          | admitted asked =>
              by_cases hk : k = id
              · subst hk
                simp [Event.assign, call, Except.map, asked]
              · simp [Event.assign, call, Except.map, hk]
          | _ => rfl
        exact same ▸ assigned
    | _ => cases request
  · obtain ⟨es, account⟩ := perform_account c request t
    have same : lastTask? (calls ++ [t.call c]) = lastTask? calls := by
      funext id
      rw [lastTask?_snoc, task?_of_not_request request]
      rfl
    rw [same, ← foldl_assign_internal account.internal (lastTask? calls)]
    exact account.trace.assigned kept h

theorem Opened.assigned (h : Opened s) : s.scheduler.Assigned (lastTask? ([] : List (Call σ))) := by
  constructor
  · simp [h.started.queue]
  · simp [h.started.running]

theorem Run.assigned (run : Run s calls t) (opened : Opened s) :
    t.scheduler.Assigned (lastTask? calls) := by
  induction run with
  | nil => exact opened.assigned
  | wait rest clock date ih => exact ih
  | call rest c ih => exact call_assigned (rest.kept opened) ih c

/-! ### Admissions -/

/-- The gates that a unit has passed when it is given a slot, and what it goes on from. -/
structure Passes (m : Session σ) (u : WorkUnit) (a : Admission) : Prop where
  live : m.scheduler.graph.unit? a.unit.id = some u
  unit : a.unit = { u with status := .running }
  met : ∀ d ∈ u.dependencies, ∃ v, m.scheduler.graph.unit? d = some v ∧ v.status = .complete
  below : u.declaredSize < m.scheduler.budget.thresholds.emergency
  within : min (u.declaredSize.toNat + a.task.estimatedCost.toNat +
    m.scheduler.budget.safetyMargin.toNat) (UInt64.size - 1) ≤ m.scheduler.budget.hardLimit.toNat
  room : m.scheduler.running.size < m.scheduler.limits.concurrency.toNat
  ticket : a.ticket = m.scheduler.nextTicket
  resume : ∃ latest, (Storage.latest? a.unit.id m.storage).1 = .ok latest ∧
    a.resume = latest.map (·.resume)

theorem passes_of_gate {id : UnitId} {u : WorkUnit} {task : LaunchTask} {latest : Option Checkpoint}
    {storage : σ} (keyed : m.scheduler.graph.Keyed)
    (ascending : m.scheduler.budget.thresholds.Ascending)
    (live : m.scheduler.graph.unit? id = some u) (gate : m.scheduler.gate u task = .passed)
    (room : m.scheduler.isFull = false)
    (read : Storage.latest? id m.storage = (.ok latest, storage)) :
    Passes m u ⟨{ u with status := .running }, task, latest.map (·.resume),
      m.scheduler.nextTicket⟩ := by
  obtain ⟨met, below, within⟩ := gate_eq_passed ascending gate
  cases keyed.live id u live
  exact ⟨live, rfl, met, below, within, by simpa [isFull] using room, rfl, latest, by rw [read], rfl⟩

theorem Step.passes_grant {id : UnitId} (h : Step m (.grant id a) n)
    (keyed : m.scheduler.graph.Keyed) (ascending : m.scheduler.budget.thresholds.Ascending) :
    a.unit.id = id ∧ ∃ u, Passes m u a ∧ (u.status = .pending ∨ u.status = .checkpointed) := by
  cases h with
  | @grant id u task latest storage live idle gate room read =>
      exact ⟨keyed.live id u live, u, passes_of_gate keyed ascending live gate room read, idle⟩

theorem Step.passes_promote {id : UnitId} (h : Step m (.promote id a) n)
    (keyed : m.scheduler.graph.Keyed) (ascending : m.scheduler.budget.thresholds.Ascending) :
    a.unit.id = id ∧ ∃ u, Passes m u a ∧ u.status = .queued ∧
      ∃ launch ∈ m.scheduler.queue.entries, launch.unitId = id ∧ launch.task = a.task := by
  cases h with
  | @promote launch queue u latest storage room pop live queued gate read =>
      have first : launch ∈ m.scheduler.queue.entries :=
        (AdmissionQueue.pop?_entries pop).1.mem_iff.2 List.mem_cons_self
      exact ⟨keyed.live launch.unitId u live, u,
        passes_of_gate keyed ascending live gate room read, queued, launch, first, rfl, rfl⟩

theorem Trace.ascending (h : Trace m es n) (hm : m.scheduler.budget.thresholds.Ascending) :
    n.scheduler.budget.thresholds.Ascending :=
  h.invariant (P := fun m => m.scheduler.budget.thresholds.Ascending)
    (fun _ _ _ step => step.ascending) hm

theorem Step.budget (h : Step m e n) (tuned : ∀ thresholds, e ≠ .retune thresholds) :
    n.scheduler.budget = m.scheduler.budget := by
  cases h with
  | retune => exact absurd rfl (tuned _)
  | split => rw [foldl_log_scheduler]; rfl
  | _ => rfl

theorem Trace.budget (h : Trace m es n) (tuned : ∀ thresholds, .retune thresholds ∉ es) :
    n.scheduler.budget = m.scheduler.budget := by
  induction h with
  | nil => rfl
  | cons step _ ih =>
      have first := step.budget fun thresholds same => tuned thresholds (same ▸ List.mem_cons_self)
      have later := ih fun thresholds he => tuned thresholds (List.mem_cons_of_mem _ he)
      exact later.trans first

/-- Every admission that a call hands out is made at a moment of the call at which its unit passes
every gate, with the thresholds of the call. The task is the one that was last asked of the unit. -/
theorem Run.admissions_pass (run : Run s calls t) (opened : Opened s) (c : Command)
    {answer : Answer} (answered : (t.call c).answer = .ok answer) (ha : a ∈ answer.admissions) :
    ∃ es e es' before after u, Script t c (t.call c).answer (es ++ e :: es') ∧
      Event.admissions (es ++ e :: es') = answer.admissions ∧
      Trace t es before ∧ Step before e after ∧ Trace after es' (t.call c).after ∧
      e.admission? = some a ∧ Passes before u a ∧
      before.scheduler.budget = t.scheduler.budget ∧ before.scheduler.limits = t.scheduler.limits ∧
      (c.IsRequest ∧ (u.status = .pending ∨ u.status = .checkpointed) ∨
        ¬ c.IsRequest ∧ u.status = .queued) ∧
      lastTask? (calls ++ [t.call c]) a.unit.id = some a.task := by
  have kept := run.kept opened
  have ascending := run.ascending opened
  obtain ⟨es, script, trace, given⟩ := call_script_given kept c
  rw [Call.given, answered] at given
  replace ha : a ∈ Event.admissions es := given.symm ▸ ha
  obtain ⟨e, he, made⟩ := List.mem_filterMap.1 ha
  obtain ⟨es₁, es₂, before, after, rfl, h₁, step, h₂⟩ := trace.at_mem he
  -- A call that changes the thresholds gives no slot away.
  have budget : before.scheduler.budget = t.scheduler.budget := by
    refine h₁.budget fun thresholds tuned => ?_
    rw [script.eq_of_retune (List.mem_append_left _ tuned), List.mem_singleton] at he
    cases he
    cases made
  have keyed := (h₁.kept kept).keyed
  have ascending := h₁.ascending ascending
  rw [lastTask?_snoc]
  cases e with
  | grant id b =>
      cases made
      obtain ⟨rfl, u, passes, idle⟩ := step.passes_grant keyed ascending
      obtain ⟨priority, rfl, granted⟩ := script.request_of_grant he
      refine ⟨es₁, _, es₂, before, after, u, script, given, h₁, step, h₂, rfl, passes, budget,
        h₁.limits, .inl ⟨trivial, idle⟩, ?_⟩
      rw [task?_of_admitted granted]
      rfl
  | promote id b =>
      cases made
      obtain ⟨rfl, u, passes, queued, launch, hl, hid, htask⟩ := step.passes_promote keyed ascending
      have request := script.not_request_of_promote he
      have earlier (e : Event) (he : e ∈ es₁) : e.isRequest = false :=
        script.internal request e (List.mem_append_left _ he)
      have known := h₁.assigned kept (run.assigned opened)
      rw [foldl_assign_internal earlier] at known
      refine ⟨es₁, _, es₂, before, after, u, script, given, h₁, step, h₂, rfl, passes, budget,
        h₁.limits, .inr ⟨request, queued⟩, ?_⟩
      rw [task?_of_not_request request, Option.none_or, ← hid, ← htask]
      exact known.waiting launch hl
  | _ => cases made

theorem admissions_pass_two_calls : ∃ (before : Session Vault) (u : WorkUnit),
    Passes before u ⟨⟨"lib", .core, .running, 3, 1000, ∅, 0, false⟩, ⟨"build", 1000⟩, none, 1⟩ ∧
    before.scheduler.budget = fresh.scheduler.budget := by
  have run := (Run.nil (s := fresh)).call (.addUnit ⟨"lib", .core, .pending, 0, 1000, ∅, 0, false⟩)
  have answered : ((fresh.call (.addUnit ⟨"lib", .core, .pending, 0, 1000, ∅, 0, false⟩)).after.call
      (.requestLaunch "lib" ⟨"build", 1000⟩ 3)).answer = .ok (.launched (.admitted
        ⟨⟨"lib", .core, .running, 3, 1000, ∅, 0, false⟩, ⟨"build", 1000⟩, none, 1⟩)) := rfl
  obtain ⟨_, _, _, before, _, u, _, _, _, _, _, _, passes, budget, _⟩ :=
    run.admissions_pass opened_fresh _ answered (List.mem_singleton.2 rfl)
  exact ⟨before, u, passes, budget⟩

end Session

end BuildAdmission
