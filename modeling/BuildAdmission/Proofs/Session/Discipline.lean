import BuildAdmission.Proofs.Session.Admission
import BuildAdmission.Proofs.Session.Durability
import BuildAdmission.Proofs.Session.Noted
import BuildAdmission.Proofs.Session.Tickets
import BuildAdmission.Proofs.Storage.Files

namespace BuildAdmission

/-- The last checkpoint of the log has the last number, so that no newer one can follow. -/
def Checkpoint.Exhausted (log : List Checkpoint) : Prop :=
  iterationOf log.getLast? + 1 ≤ iterationOf log.getLast?

/-- A log that holds the reports of a unit, one after the other, numbered from one. Of what was
reported only the time spent may be rounded. -/
structure Records (round : Duration → Duration) (id : UnitId) (reports : List CheckpointData)
    (log : List Checkpoint) : Prop where
  named : ∀ c ∈ log, c.unitId = id
  numbered : log.map (·.iteration.toNat) = List.range' 1 reports.length
  carried : log.map (·.data) = reports.map (·.rounded round)

namespace Records

variable {round : Duration → Duration} {id : UnitId} {reports : List CheckpointData}
  {log : List Checkpoint}

theorem nil (round : Duration → Duration) (id : UnitId) : Records round id [] [] :=
  ⟨by simp, rfl, rfl⟩

theorem length_eq (h : Records round id reports log) : log.length = reports.length := by
  have length := congrArg List.length h.carried
  rwa [List.length_map, List.length_map] at length

theorem iterationOf (h : Records round id reports log) :
    (Checkpoint.iterationOf log.getLast?).toNat = reports.length := by
  have length := h.length_eq
  have numbered := h.numbered
  obtain rfl | ⟨earlier, c, rfl⟩ := List.eq_nil_or_concat log
  · exact length
  · rw [List.concat_eq_append] at length numbered ⊢
    rw [List.length_append, List.length_singleton] at length
    rw [← length, List.range'_concat, List.map_append, Nat.one_mul] at numbered
    have last : c.iteration.toNat = 1 + earlier.length :=
      List.singleton_inj.1 (List.append_inj' numbered rfl).2
    rw [List.getLast?_concat, Checkpoint.iterationOf, Option.elim_some, last, Nat.add_comm, length]

/-- One more report is recorded, unless the numbers are used up. -/
theorem next (h : Records round id reports log) {data : CheckpointData} {date : Timestamp}
    (fits : 0 < (Checkpoint.next log id data date).iteration) (date' : Timestamp) :
    Records round id (reports ++ [data])
      (log ++ [.next log id (data.rounded round) date']) := by
  have number : (Checkpoint.next log id data date).iteration.toNat = 1 + reports.length := by
    have sum : (Checkpoint.next log id data date).iteration.toNat =
        (reports.length + 1) % UInt32.size := h.iterationOf ▸ UInt32.toNat_add ..
    have bound : reports.length < UInt32.size := h.iterationOf ▸ UInt32.toNat_lt_size _
    rw [UInt32.lt_iff_toNat_lt, sum] at fits
    rw [sum]
    rcases Nat.lt_or_eq_of_le (Nat.succ_le_of_lt bound) with less | all
    · rw [Nat.mod_eq_of_lt less, Nat.add_comm]
    · rw [← Nat.succ_eq_add_one, all, Nat.mod_self] at fits
      exact absurd fits (lt_irrefl _)
  constructor
  · intro c hc
    rcases List.mem_append.1 hc with hc | hc
    · exact h.named c hc
    · exact List.mem_singleton.1 hc ▸ rfl
  · rw [List.map_append, h.numbered, List.length_append, List.length_singleton, List.range'_concat,
      Nat.one_mul, List.map_singleton]
    exact congrArg (_ ++ [·]) number
  · rw [List.map_append, h.carried, List.map_append]
    rfl

theorem full (h : Records round id reports log) (exhausted : Checkpoint.Exhausted log) :
    reports.length = UInt32.size - 1 := by
  rw [Checkpoint.Exhausted, UInt32.le_iff_toNat_le, UInt32.toNat_add, h.iterationOf] at exhausted
  have bound : reports.length < UInt32.size := h.iterationOf ▸ UInt32.toNat_lt_size _
  by_contra other
  have less : reports.length + 1 < UInt32.size := by omega
  have same : (reports.length + (1 : UInt32).toNat) % 2 ^ 32 = reports.length + 1 :=
    Nat.mod_eq_of_lt less
  omega

theorem resume_eq_none_iff (h : Records round id reports log) :
    log.getLast?.map (·.resume) = none ↔ reports = [] := by
  rw [Option.map_eq_none_iff, List.getLast?_eq_none_iff, ← List.length_eq_zero_iff, h.length_eq,
    List.length_eq_zero_iff]

end Records

namespace Call

variable {σ : Type} {back : Checkpoint → Option Checkpoint} {stored : σ → UnitId → List Checkpoint}
  {c : Call σ} {id : UnitId}

/-- The unit whose run the call has ended half way, with what the unit reported. -/
def suspended? (c : Call σ) : Option (UnitId × CheckpointData) :=
  match c.command.suspension?, c.answer with
  | some (id, data), .ok (.ended (some _)) => some (id, data)
  | _, _ => none

def reportsOf (c : Call σ) (id : UnitId) : List CheckpointData :=
  (c.suspended?.filter (·.1 = id)).toList.map (·.2)

theorem saved?_eq (stored : σ → UnitId → List Checkpoint) (c : Call σ) :
    c.saved? stored = c.suspended?.map fun r =>
      .next (stored c.before.storage r.1) r.1 r.2 c.before.date := by
  rw [saved?]
  split
  · next asked answered =>
    rw [suspended?, asked, answered]
    rfl
  · next other =>
    rw [suspended?]
    split
    · next asked answered => exact (other _ _ _ asked answered).elim
    · rfl

theorem savedFor_eq (stored : σ → UnitId → List Checkpoint) (c : Call σ) (id : UnitId) :
    c.savedFor stored id = (c.reportsOf id).map fun data =>
      .next (stored c.before.storage id) id data c.before.date := by
  rw [savedFor, saved?_eq, reportsOf]
  cases c.suspended? with
  | none => rfl
  | some suspended =>
      obtain ⟨k, data⟩ := suspended
      by_cases hk : k = id
      · subst hk
        simp [Checkpoint.next, Option.filter]
      · simp [Checkpoint.next, hk]

theorem reportsOf_cases (c : Call σ) (id : UnitId) :
    c.reportsOf id = [] ∨ ∃ data, c.suspended? = some (id, data) ∧ c.reportsOf id = [data] := by
  rw [reportsOf]
  cases c.suspended? with
  | none => exact .inl rfl
  | some suspended =>
      obtain ⟨k, data⟩ := suspended
      by_cases hk : k = id
      · subst hk
        exact .inr ⟨data, rfl, by simp [Option.filter]⟩
      · exact .inl (by simp [hk])

/-- Only a suspension or the completion of a unit changes what is stored for it. -/
theorem Deposits.stored_eq (h : c.Deposits back stored)
    (unsuspended : ∀ data, c.suspended? ≠ some (id, data)) (incomplete : ¬ c.Completes id) :
    stored c.after.storage id = stored c.before.storage id := by
  cases h with
  | nothing none same => rw [same]
  | @saves ck saved positive unfinished added =>
      rw [saved?_eq] at saved
      obtain ⟨⟨k, data⟩, suspended, rfl⟩ := Option.map_eq_some_iff.1 saved
      have hk : id ≠ k := by
        rintro rfl
        exact unsuspended data suspended
      rw [added]
      exact Function.update_of_ne hk ..
  | @empties k completes done emptied =>
      have hk : id ≠ k := by
        rintro rfl
        exact incomplete completes
      rw [emptied, Function.update_of_ne hk]

end Call

/-- A unit that is suspended has checkpoints, one that is complete or unknown has none. -/
def Status.Suits : Option Status → List Checkpoint → Prop
  | none, log | some .complete, log => log = []
  | some .checkpointed, log => log ≠ []
  | _, _ => True

namespace Session

section

variable {σ : Type} [Storage σ] {good : σ → Prop} {accepted : UnitId → Prop}
  {back : Checkpoint → Option Checkpoint} {round : Duration → Duration}
  {stored : σ → UnitId → List Checkpoint} {m n s t : Session σ} {e : Event} {es : List Event}
  {id : UnitId} {calls : List (Call σ)} {a : Admission} {c : Command}

open BuildAdmission.Graph Storage

/-- What the calls have reported about a unit when they suspended it. -/
def reports (calls : List (Call σ)) (id : UnitId) : List CheckpointData :=
  calls.flatMap (·.reportsOf id)

omit [Storage σ] in
theorem reports_snoc (calls : List (Call σ)) (c : Call σ) (id : UnitId) :
    reports (calls ++ [c]) id = reports calls id ++ c.reportsOf id := by
  simp [reports]

/-! ### Status and log -/

/-- Only a suspension or the completion of a unit changes what is stored for it. -/
theorem Step.stored_cases (logging : Logging good back stored) (h : Step m e n)
    (hm : good m.storage) (clean : Checkpoint.Settled back (stored m.storage)) (id : UnitId) :
    ((∀ data, e ≠ .suspend id data) ∧ e ≠ .complete id ∧
        stored n.storage id = stored m.storage id) ∨
      (∃ data, e = .suspend id data ∧ stored n.storage id = stored m.storage id ++
        (back (.next (stored m.storage id) id data m.date)).toList) ∨
      e = .complete id := by
  by_cases deposit : e.isDeposit = false
  · refine .inl ⟨?_, ?_, congrFun (h.spares logging.toCareful hm deposit).2 id⟩
    · rintro data rfl
      cases deposit
    · rintro rfl
      cases deposit
  · cases e with
    | suspend k data =>
        obtain ⟨_, _, added⟩ := h.stored_suspend logging hm
        by_cases hk : id = k
        · subst hk
          exact .inr (.inl ⟨data, rfl, by rw [added, Function.update_self]⟩)
        · refine .inl ⟨by simp [Ne.symm hk], by simp, ?_⟩
          rw [added, Function.update_of_ne hk]
    | complete k =>
        by_cases hk : id = k
        · exact .inr (.inr (hk ▸ rfl))
        · refine .inl ⟨by simp, by simp [Ne.symm hk], ?_⟩
          rcases h.stored_complete logging hm clean with same | emptied
          · rw [same]
          · rw [emptied, Function.update_of_ne hk]
    | _ => exact absurd rfl deposit

theorem Step.stored_completed (steady : Steady good accepted back stored)
    (h : Step m (.complete id) n) (hm : good m.storage)
    (clean : Checkpoint.Settled back (stored m.storage)) (named : accepted id) :
    stored n.storage id = [] := by
  cases h with
  | complete =>
      have emptied := steady.emptied _ id hm clean (steady.deletes _ id hm named)
      exact (congrFun emptied id).trans (Function.update_self ..)

theorem Step.status_suspend {data : CheckpointData} (h : Step m (.suspend id data) n) :
    n.scheduler.graph.status? id = some .checkpointed := by
  cases h with
  | suspend live status slot read saved => exact status?_of_live (unit?_update_self live)

theorem Step.suits (h : Step m e n) (kept : m.scheduler.Kept)
    (unsuspended : ∀ data, e ≠ .suspend id data) (incomplete : e ≠ .complete id)
    {log : List Checkpoint} (suits : Status.Suits (m.scheduler.graph.status? id) log) :
    Status.Suits (n.scheduler.graph.status? id) log := by
  have moves := h.moves kept id
  generalize m.scheduler.graph.status? id = old, n.scheduler.graph.status? id = new at suits moves
  cases moves with
  | stays => exact suits
  | registered named status =>
      rcases status with status | status
      · exact status ▸ trivial
      · rw [status]
        exact suits
  | suspended => exact absurd rfl (unsuspended _)
  | completed => exact absurd rfl incomplete
  | _ => trivial

theorem Trace.suits (h : Trace m es n) (kept : m.scheduler.Kept)
    (others : ∀ e ∈ es, e.isDeposit = false) {log : List Checkpoint}
    (suits : Status.Suits (m.scheduler.graph.status? id) log) :
    Status.Suits (n.scheduler.graph.status? id) log := by
  induction h with
  | nil => exact suits
  | cons step rest ih =>
      obtain ⟨other, others⟩ := List.forall_mem_cons.1 others
      refine ih (step.kept kept) others (step.suits kept ?_ ?_ suits)
      · rintro data rfl
        cases other
      · rintro rfl
        cases other

theorem call_suits (steady : Steady good accepted back stored) (kept : t.scheduler.Kept)
    (ht : good t.storage) (clean : Checkpoint.Settled back (stored t.storage))
    (named : accepted id) (fits : (t.call c).Fits back stored)
    (suits : Status.Suits (t.scheduler.graph.status? id) (stored t.storage id)) :
    Status.Suits ((t.call c).after.scheduler.graph.status? id)
      (stored (t.call c).after.storage id) := by
  have careful := steady.toCareful
  obtain ⟨es, script, trace⟩ := call_script kept c
  obtain ⟨others, _⟩ | ⟨first, rest, report, rfl, answered, others, deposit⟩ := script.deposits
  · rw [(trace.spares careful ht others).2]
    exact trace.suits kept others suits
  · cases trace with
    | cons step rest =>
        rw [(rest.spares careful (step.keeps_good careful ht) others).2]
        refine rest.suits (step.kept kept) others ?_
        obtain ⟨unsuspended, incomplete, same⟩ | ⟨data, rfl, added⟩ | rfl :=
          step.stored_cases steady.toLogging ht clean id
        · exact same ▸ step.suits kept unsuspended incomplete suits
        · obtain ⟨_, _, suspends, asked⟩ | ⟨_, completes, _⟩ := deposit
          · cases suspends
            obtain ⟨read, hread, _⟩ := fits _ (Call.saved?_of_suspended asked answered)
            have one : (back (.next (stored t.storage id) id data t.date)).toList = [read] :=
              congrArg Option.toList hread
            rw [step.status_suspend, added, one]
            simp [Status.Suits]
          · cases completes
        · rw [isDone_iff.1 step.done_complete]
          exact step.stored_completed steady ht clean named

theorem Run.suits (steady : Steady good accepted back stored) (opened : Opened s)
    (start : good s.storage) (clean : Checkpoint.Settled back (stored s.storage))
    (named : accepted id)
    (suits : Status.Suits (s.scheduler.graph.status? id) (stored s.storage id))
    (run : Run s calls t) (fits : ∀ c ∈ calls, c.Fits back stored) :
    Status.Suits (t.scheduler.graph.status? id) (stored t.storage id) := by
  induction run with
  | nil => exact suits
  | wait rest clock date ih => exact ih fits
  | call rest command ih =>
      obtain ⟨before, last⟩ := List.forall_mem_append.1 fits
      exact call_suits steady (rest.kept opened) (rest.keeps_good steady.toCareful start)
        (rest.settled steady.toLogging opened start clean before) named
        (last _ List.mem_cons_self) (ih before)

/-! ### What is recorded -/

section

variable (logging : Logging good back stored) (opened : Opened s) (start : good s.storage)
  (empty : ∀ id, stored s.storage id = [])
include logging opened start empty

theorem Run.stored_eq_saved (run : Run s calls t) (fits : ∀ c ∈ calls, c.Fits back stored)
    (undone : ¬ t.scheduler.graph.IsDone id) :
    stored t.storage id = (saved stored calls id).filterMap back := by
  obtain ⟨held, _⟩ | ⟨_, done, _⟩ :=
    run.ledger logging opened start (Checkpoint.settled_of_empty empty) fits id
  · rw [held, empty id, List.nil_append]
  · exact absurd done undone

theorem Run.records_saved (retimed : Checkpoint.Retimed back round) (run : Run s calls t)
    (fits : ∀ c ∈ calls, c.Fits back stored) (id : UnitId) :
    Records round id (reports calls id) ((saved stored calls id).filterMap back) := by
  induction run with
  | nil => exact .nil round id
  | wait rest clock date ih => exact ih fits
  | @call calls t rest command ih =>
      obtain ⟨before, last⟩ := List.forall_mem_append.1 fits
      have asked : (t.call command).before = t := rfl
      rw [saved_snoc, reports_snoc, Call.savedFor_eq, asked, List.filterMap_append]
      obtain none | ⟨data, suspended, one⟩ := (t.call command).reportsOf_cases id
      · rw [none, List.map_nil, List.filterMap_nil, List.append_nil, List.append_nil]
        exact ih before
      · have made : (t.call command).saved? stored =
            some (.next (stored t.storage id) id data t.date) := by
          rw [Call.saved?_eq, suspended]
          rfl
        obtain ⟨read, hread, _⟩ := last _ List.mem_cons_self _ made
        have deposits := rest.call_deposits logging opened start
          (Checkpoint.settled_of_empty empty) before command
        cases deposits with
        | nothing none same => cases none.symm.trans made
        | saves saved positive unfinished added =>
            cases saved.symm.trans made
            have held : stored t.storage id = (Session.saved stored calls id).filterMap back :=
              rest.stored_eq_saved logging opened start empty before unfinished
            have next := (ih before).next (held ▸ positive) read.createdAt
            rw [← held] at next ⊢
            rw [one, List.map_singleton, List.filterMap_cons_some hread, List.filterMap_nil,
              retimed _ _ hread]
            exact next
        | empties completes done emptied =>
            cases (Call.saved?_eq_none
              (Command.suspension?_of_completion? completes.1)).symm.trans made

theorem Run.records (retimed : Checkpoint.Retimed back round) (run : Run s calls t)
    (fits : ∀ c ∈ calls, c.Fits back stored) (undone : ¬ t.scheduler.graph.IsDone id) :
    Records round id (reports calls id) (stored t.storage id) :=
  run.stored_eq_saved logging opened start empty fits undone ▸
    run.records_saved logging opened start empty retimed fits id

end

/-! ### Suspensions -/

/-- A unit that runs can be suspended, unless its last checkpoint has the last number. -/
theorem suspended_accepted (steady : Steady good accepted back stored) (kept : t.scheduler.Kept)
    (ht : good t.storage) (named : accepted id)
    (running : ∃ u, t.scheduler.graph.unit? id = some u ∧ u.status = .running)
    (data : CheckpointData) :
    (∃ report, ((Op.suspended id data).run t).1 = .ok report) ∨
      Checkpoint.Exhausted (stored t.storage id) := by
  obtain ⟨es, ended⟩ | ⟨refusal, e, n, step, rfl | rfl, _⟩ | ⟨refusal, _, idle⟩ :=
    Op.run_suspended id data t
  · obtain ⟨report, reported, _⟩ := ended.report
    exact .inl ⟨report, reported⟩
  · cases step with
    | unread read =>
        obtain ⟨latest, reads⟩ := steady.reads t.storage id ht named
        cases (congrArg Prod.fst read).symm.trans reads
  · cases step with
    | @unsaved _ data' latest refusal storage storage' read save =>
        obtain ⟨hr, same⟩ := steady.read read ht
        obtain rfl := steady.newest t.storage id latest ht (congrArg Prod.fst read)
        have answer := (congrArg Prod.fst save).symm.trans (steady.saves storage _ hr named)
        rw [same, Checkpoint.checkNewer] at answer
        split at answer
        · next stale => exact .inr stale
        · cases answer
  · obtain ⟨u, live, status⟩ := running
    obtain ⟨r, slot⟩ := kept.running_iff.2 ⟨u, live, status⟩
    exact absurd ⟨u, r, live, status, slot⟩ idle

theorem suspension_accepted (steady : Steady good accepted back stored) (kept : t.scheduler.Kept)
    (ht : good t.storage) (named : accepted id) {data : CheckpointData}
    (asked : c.suspension? = some (id, data))
    (running : ∃ u, t.scheduler.graph.unit? id = some u ∧ u.status = .running) :
    (∃ report, (t.call c).answer = .ok (.ended report)) ∨
      Checkpoint.Exhausted (stored t.storage id) := by
  have suspend {command : Command}
      (hrun : (t.call command).answer = ((Op.suspended id data).run t).1.map (.ended ∘ some)) :
      (∃ report, (t.call command).answer = .ok (.ended report)) ∨
        Checkpoint.Exhausted (stored t.storage id) := by
    refine (suspended_accepted steady kept ht named running data).imp_left ?_
    rintro ⟨report, reported⟩
    exact ⟨some report, by rw [hrun, reported]; rfl⟩
  cases c with
  | suspended k data' =>
      cases asked
      exact suspend (by rw [call, Command.perform, Op.run_map])
  | applyOutcome k ticket outcome =>
      cases outcome with
      | suspended data' =>
          cases asked
          have hrun := perform_applyOutcome id ticket (.suspended data) t
          split at hrun
          · exact suspend (congrArg Prod.fst (hrun.trans (Op.run_map ..)))
          · exact .inl ⟨none, congrArg Prod.fst hrun⟩
      | _ => cases asked
  | _ => cases asked

/-! ### Admissions -/

/-- The log of the unit is that one, unless the unit is suspended or complete by now. -/
def Holds (stored : σ → UnitId → List Checkpoint) (id : UnitId) (log : List Checkpoint)
    (m : Session σ) : Prop :=
  stored m.storage id = log ∨ m.scheduler.graph.status? id = some .checkpointed ∨
    m.scheduler.graph.status? id = some .complete

theorem Step.holds (careful : Careful good stored) (h : Step m e n) (kept : m.scheduler.Kept)
    (hm : good m.storage) (quiet : e.isDeposit = false) (internal : e.isRequest = false)
    {log : List Checkpoint} (holds : Holds stored id log m) : Holds stored id log n := by
  rcases holds with held | ends
  · exact .inl ((congrFun (h.spares careful hm quiet).2 id).trans held)
  · refine .inr ?_
    have moves := h.moves kept id
    generalize m.scheduler.graph.status? id = old, n.scheduler.graph.status? id = new at ends moves
    cases moves with
    | stays => exact ends
    | blocked | enqueued | granted => cases internal
    | _ => rcases ends with ends | ends <;> cases ends

theorem Trace.holds_quiet (careful : Careful good stored) (h : Trace m es n)
    (kept : m.scheduler.Kept) (hm : good m.storage)
    (quiet : ∀ e ∈ es, e.isDeposit = false ∧ e.isRequest = false) {log : List Checkpoint}
    (holds : Holds stored id log m) : Holds stored id log n := by
  induction h with
  | nil => exact holds
  | cons step rest ih =>
      obtain ⟨⟨spares, internal⟩, quiet⟩ := List.forall_mem_cons.1 quiet
      exact ih (step.kept kept) (step.keeps_good careful hm) quiet
        (step.holds careful kept hm spares internal holds)

/-- Only the first event of a call can be a suspension or a completion, and a unit that rests by it
goes on resting. -/
theorem Trace.holds (logging : Logging good back stored) (h : Trace m es n)
    (kept : m.scheduler.Kept) (hm : good m.storage)
    (clean : Checkpoint.Settled back (stored m.storage))
    (later : ∀ e ∈ es.tail, e.isDeposit = false) (internal : ∀ e ∈ es, e.isRequest = false) :
    Holds stored id (stored m.storage id) n := by
  cases h with
  | nil => exact .inl rfl
  | cons step rest =>
      refine rest.holds_quiet logging.toCareful (step.kept kept)
        (step.keeps_good logging.toCareful hm)
        (fun e he => ⟨later e he, internal e (List.mem_cons_of_mem _ he)⟩) ?_
      obtain ⟨_, _, same⟩ | ⟨data, rfl, _⟩ | rfl := step.stored_cases logging hm clean id
      · exact .inl same
      · exact .inr (.inl step.status_suspend)
      · exact .inr (.inr (isDone_iff.1 step.done_complete))

theorem Passes.resume_eq (legible : Legible good stored) (hm : good m.storage)
    {u : WorkUnit} (h : Passes m u a) :
    a.resume = (stored m.storage a.unit.id).getLast?.map (·.resume) := by
  obtain ⟨latest, read, resume⟩ := h.resume
  rw [resume, legible.newest m.storage a.unit.id latest hm read]

theorem Trace.undone {es : List Event} {u : WorkUnit} (h : Trace t es m) (kept : t.scheduler.Kept)
    (live : m.scheduler.graph.unit? id = some u) (unfinished : u.status ≠ .complete) :
    ¬ t.scheduler.graph.IsDone id :=
  fun done => unfinished ((h.done kept done).status_eq live)

theorem launched_resume (legible : Legible good stored) (kept : t.scheduler.Kept)
    (ascending : t.scheduler.budget.thresholds.Ascending) (ht : good t.storage)
    {task : LaunchTask} {priority : Int32}
    (ha : a ∈ (t.call (.requestLaunch id task priority)).given) :
    ¬ t.scheduler.graph.IsDone a.unit.id ∧
      a.resume = (stored t.storage a.unit.id).getLast?.map (·.resume) := by
  obtain ⟨answer, es, launched, answered, trace⟩ := perform_requestLaunch id task priority t
  rw [Call.given, answered] at ha
  cases launched with
  | admitted =>
      cases List.mem_singleton.1 ha
      cases trace with
      | cons noted rest =>
          cases rest with
          | cons granted _ =>
              obtain ⟨rfl, u, passes, idle⟩ := granted.passes_grant (noted.kept kept).keyed
                (noted.ascending ascending)
              refine ⟨noted.trace.undone kept passes.live ?_, ?_⟩
              · rcases idle with status | status <;> simp [status]
              · have same := noted.spares legible.toCareful ht rfl
                rw [passes.resume_eq legible same.1, same.2]
  | _ => cases ha

/-- A unit that waits when the turn comes to it was neither suspended nor completed by the call, so
its log is the one it had before. -/
theorem promoted_resume (logging : Logging good back stored) (kept : t.scheduler.Kept)
    (ascending : t.scheduler.budget.thresholds.Ascending) (ht : good t.storage)
    (clean : Checkpoint.Settled back (stored t.storage)) {es : List Event} (trace : Trace t es m)
    (later : ∀ e ∈ es.tail, e.isDeposit = false) (internal : ∀ e ∈ es, e.isRequest = false)
    (step : Step m (.promote id a) n) :
    ¬ t.scheduler.graph.IsDone a.unit.id ∧
      a.resume = (stored t.storage a.unit.id).getLast?.map (·.resume) := by
  obtain ⟨rfl, u, passes, queued, _⟩ :=
    step.passes_promote (trace.kept kept).keyed (trace.ascending ascending)
  refine ⟨trace.undone kept passes.live (by simp [queued]), ?_⟩
  have holds : Holds stored a.unit.id (stored t.storage a.unit.id) m :=
    trace.holds logging kept ht clean later internal
  rw [Holds, status?_of_live passes.live, queued] at holds
  have same := holds.resolve_right (by simp)
  have hm := trace.invariant (P := fun m => good m.storage)
    (fun _ _ _ step => step.keeps_good logging.toCareful) ht
  rw [passes.resume_eq logging.toLegible hm, same]

/-- A unit that is given a slot goes on from the last checkpoint that was stored for it before the
call. -/
theorem given_resume (logging : Logging good back stored) (kept : t.scheduler.Kept)
    (ascending : t.scheduler.budget.thresholds.Ascending) (ht : good t.storage)
    (clean : Checkpoint.Settled back (stored t.storage)) (ha : a ∈ (t.call c).given) :
    ¬ t.scheduler.graph.IsDone a.unit.id ∧
      a.resume = (stored t.storage a.unit.id).getLast?.map (·.resume) := by
  by_cases request : c.IsRequest
  · cases c with
    | requestLaunch id task priority => exact launched_resume logging.toLegible kept ascending ht ha
    | _ => cases request
  · obtain ⟨es, script, trace, given⟩ := call_script_given kept c
    rw [← given] at ha
    obtain ⟨e, he, made⟩ := List.mem_filterMap.1 ha
    have internal := script.internal request
    have later := script.later
    obtain ⟨es₁, es₂, before, after, rfl, h₁, step, _⟩ := trace.at_mem he
    cases e with
    | promote id b =>
        cases made
        refine promoted_resume logging kept ascending ht clean h₁ ?_
          (fun d hd => internal d (List.mem_append_left _ hd)) step
        cases es₁ with
        | nil => exact List.forall_mem_nil _
        | cons first rest => exact fun d hd => later d (List.mem_append_left _ hd)
    | grant => cases internal _ he
    | _ => cases made

/-- In a session that begins with a new scheduler and without any checkpoint, over a storage whose
calls do not fail and which reads back what it is given, the log of a unit holds what was reported
whenever the unit was suspended, numbered from one, until the unit is complete. Nothing but the time
spent can differ. A unit that runs is suspended whenever that is asked, unless all the numbers are
used up, each slot is given for going on from the last entry of the log, and nothing but a suspension
or the completion of the unit touches its log. -/
theorem Run.checkpoint_discipline {thresholds : Thresholds} {margin hardLimit : UInt64}
    {budget : Budget} {limits : Limits} (steady : Steady good accepted back stored)
    (retimed : Checkpoint.Retimed back round)
    (valid : Budget.new thresholds margin hardLimit = .ok budget)
    (made : Scheduler.new limits budget = .ok s.scheduler) (start : good s.storage)
    (empty : ∀ id, stored s.storage id = []) (run : Run s calls t)
    (fits : ∀ c ∈ calls, c.Fits back stored) (id : UnitId) (named : accepted id) :
    (¬ t.scheduler.graph.IsDone id →
      Records round id (reports calls id) (stored t.storage id)) ∧
    (t.scheduler.graph.IsDone id → stored t.storage id = []) ∧
    (∀ u, t.scheduler.graph.unit? id = some u → u.status = .checkpointed → reports calls id ≠ []) ∧
    (∀ c data, c.suspension? = some (id, data) →
      (∃ u, t.scheduler.graph.unit? id = some u ∧ u.status = .running) →
        (∃ report, (t.call c).answer = .ok (.ended report)) ∨
          (reports calls id).length = UInt32.size - 1) ∧
    (∀ c, (∀ data, (t.call c).suspended? ≠ some (id, data)) → ¬ (t.call c).Completes id →
      stored (t.call c).after.storage id = stored t.storage id) ∧
    ∀ earlier c later, calls = earlier ++ c :: later → ∀ a ∈ c.given, a.unit.id = id →
      Records round id (reports earlier id) (stored c.before.storage id) ∧
        a.resume = (stored c.before.storage id).getLast?.map (·.resume) ∧
        (a.resume = none ↔ reports earlier id = []) := by
  have opened : Opened s := .new valid made
  have logging := steady.toLogging
  have clean : Checkpoint.Settled back (stored s.storage) := Checkpoint.settled_of_empty empty
  have kept := run.kept opened
  have ht := run.keeps_good steady.toCareful start
  have absent : s.scheduler.graph.status? id = none := by
    rw [Scheduler.new_eq_ok made]
    rfl
  have suits := run.suits steady opened start clean named (absent ▸ empty id) fits
  have records : ¬ t.scheduler.graph.IsDone id →
      Records round id (reports calls id) (stored t.storage id) :=
    run.records logging opened start empty retimed fits
  refine ⟨records, fun done => ?_, fun u live status => ?_, fun c data asked running => ?_,
    fun c unsuspended incomplete => ?_, ?_⟩
  · rw [isDone_iff.1 done] at suits
    exact suits
  · rw [status?_of_live live, status] at suits
    have undone : ¬ t.scheduler.graph.IsDone id := by
      intro done
      cases status.symm.trans (done.status_eq live)
    intro none
    have length := (records undone).length_eq
    rw [none] at length
    exact suits (List.length_eq_zero_iff.1 length)
  · have undone : ¬ t.scheduler.graph.IsDone id := by
      obtain ⟨u, live, status⟩ := running
      intro done
      cases status.symm.trans (done.status_eq live)
    exact (suspension_accepted steady kept ht named asked running).imp_right (records undone).full
  · exact (run.call_deposits logging opened start clean fits c).stored_eq unsuspended incomplete
  · rintro earlier c later hcalls a ha rfl
    obtain ⟨before, same⟩ := run.at_call hcalls
    rw [same] at ha
    have fits : ∀ c ∈ earlier, c.Fits back stored := by
      intro c hc
      exact fits c (hcalls ▸ List.mem_append_left _ hc)
    obtain ⟨undone, resume⟩ := given_resume logging (before.kept opened) (before.ascending opened)
      (before.keeps_good steady.toCareful start) (before.settled logging opened start clean fits) ha
    have recorded := before.records logging opened start empty retimed fits undone
    exact ⟨recorded, resume, resume ▸ recorded.resume_eq_none_iff⟩

end

/-- `lib` is suspended, fails on its next run and goes on, and is suspended again. -/
def pausedCalls : List Command :=
  [.addUnit ⟨"lib", .core, .pending, 0, 1000, ∅, 0, false⟩,
    .requestLaunch "lib" ⟨"build", 1000⟩ 3, .suspended "lib" halfDone,
    .requestLaunch "lib" ⟨"build", 1000⟩ 3, .failed "lib" "crashed", .suspended "lib" halfDone]

theorem checkpoint_discipline_paused : ∃ (t : Session Vault) (a : Admission),
    Run narrow (narrow.callsOf pausedCalls) t ∧
    reports (narrow.callsOf pausedCalls) "lib" = [halfDone, halfDone] ∧
    Records id "lib" [halfDone, halfDone] (t.storage.history "lib") ∧
    ((narrow.callAll (pausedCalls.take 4)).call (.failed "lib" "crashed")).given = [a] ∧
    a.unit.id = "lib" ∧ a.resume ≠ none := by
  have run := run_callAll narrow pausedCalls
  have made : Scheduler.new narrow.scheduler.limits fresh.scheduler.budget = .ok narrow.scheduler :=
    made_limited rfl
  obtain ⟨records, _, _, _, _, resumes⟩ := run.checkpoint_discipline Vault.steady_memory
    Checkpoint.retimed_some standard_budget made ⟨_, _, rfl⟩ (fun _ => rfl)
    (fun c _ => c.fits_some _) "lib" trivial
  have reported : reports (narrow.callsOf pausedCalls) "lib" = [halfDone, halfDone] := by
    decide +kernel
  have once : reports (narrow.callsOf (pausedCalls.take 4)) "lib" = [halfDone] := by decide +kernel
  have again : ((narrow.callAll (pausedCalls.take 4)).call (.failed "lib" "crashed")).given.map
      (·.unit.id) = ["lib"] := by decide +kernel
  obtain ⟨a, given, named⟩ := List.map_eq_singleton_iff.1 again
  obtain ⟨_, _, first⟩ := resumes (narrow.callsOf (pausedCalls.take 4)) _ _ rfl a
    (given ▸ List.mem_singleton_self a) named
  refine ⟨_, a, run, reported, reported ▸ records ?_, given, named, fun none => ?_⟩
  · rw [Graph.isDone_iff]
    decide +kernel
  · cases once.symm.trans (first.1 none)

/-- A run of `2 ^ 53 - 1` seconds. -/
def longRun : CheckpointData := ⟨["parse"], ["link"], [], .ofSecs 9007199254740991, ⟨3, 0⟩⟩

/-- A session with logs and records in new files. -/
def filed : Session Vault := { fresh with storage := Vault.newFiles }

def longCalls : List Command :=
  [.addUnit ⟨"lib", .core, .pending, 0, 1000, ∅, 0, false⟩,
    .requestLaunch "lib" ⟨"build", 1000⟩ 0, .suspended "lib" longRun]

/-- A log in a file holds the time spent in seconds, and the number is read as that of another
double. -/
theorem checkpoint_discipline_rounded :
    Scheduler.new filed.scheduler.limits filed.scheduler.budget = .ok filed.scheduler ∧
    (∀ id, filed.storage.history id = []) ∧
    ∃ t c, Run filed (filed.callsOf longCalls) t ∧
      (∀ c ∈ filed.callsOf longCalls,
        c.fails [.loadLatest, .save, .deleteAll, .load, .flush] = false) ∧
      reports (filed.callsOf longCalls) "lib" = [longRun] ∧
      t.storage.history "lib" = [c] ∧ c.data ≠ longRun := by
  have run := run_callAll filed longCalls
  have made : Scheduler.new filed.scheduler.limits filed.scheduler.budget = .ok filed.scheduler :=
    made_limited rfl
  have calm : ∀ c ∈ filed.callsOf longCalls,
      c.fails [.loadLatest, .save, .deleteAll, .load, .flush] = false := by decide +kernel
  have reported : reports (filed.callsOf longCalls) "lib" = [longRun] := by decide +kernel
  have saved : ∀ c ∈ filed.callsOf longCalls, ∀ ck ∈ c.saved? Vault.history,
      ck = ⟨"lib", 1, longRun, .epoch⟩ := by decide +kernel
  have fits : ∀ c ∈ filed.callsOf longCalls, c.Fits Checkpoint.reread Vault.history := by
    intro c hc ck hck
    rw [saved c hc ck hck]
    refine ⟨⟨"lib", 1, { longRun with timeSpent := .ofSecs 9007199254740990 }, .epoch⟩, ?_⟩
    rw [Checkpoint.reread_eq, Checkpoint.reread_eq]
    decide +kernel
  have unfinished : ¬ (filed.callAll longCalls).scheduler.graph.IsDone "lib" := by
    rw [Graph.isDone_iff]
    decide +kernel
  have records := run.records (Vault.steady_files Vault.apart_newFiles).toLogging
    (.new standard_budget made) Vault.filed_newFiles Vault.history_newFiles
    Checkpoint.retimed_reread fits unfinished
  rw [reported] at records
  obtain ⟨c, log⟩ := List.length_eq_one_iff.1 records.length_eq
  refine ⟨made, Vault.history_newFiles, _, c, run, calm, reported, log, ?_⟩
  have carried := records.carried
  rw [log, List.map_singleton, List.map_singleton] at carried
  rw [List.singleton_inj.1 carried]
  decide +kernel

/-- A run of almost `2 ^ 64` seconds is written down with more than a duration can have, and is not
read back. -/
example : Checkpoint.reread ⟨"lib", 1, { longRun with timeSpent := .ofSecs 18446744073709551615 },
    .epoch⟩ = none := by
  rw [Checkpoint.reread_eq]
  decide +kernel

end Session

end BuildAdmission
