import BuildAdmission.Proofs.Session.Completion
import BuildAdmission.Proofs.Session.Script
import BuildAdmission.Proofs.Session.Sparing
import BuildAdmission.Proofs.Storage.Keeping

namespace BuildAdmission

namespace Command

/-- The unit that a command suspends, with what the unit reports. -/
def suspension? : Command → Option (UnitId × CheckpointData)
  | suspended id data | applyOutcome id _ (.suspended data) => some (id, data)
  | _ => none

def completion? : Command → Option UnitId
  | completed id | applyOutcome id _ .completed => some id
  | _ => none

theorem suspension?_of_completion? {c : Command} {id : UnitId} (h : c.completion? = some id) :
    c.suspension? = none := by
  unfold completion? at h
  split at h <;> first | rfl | cases h

theorem Tells.suspension?_failed {c : Command} {id : UnitId} {reason : String}
    (h : c.Tells id (.failed reason)) : c.suspension? = none := by
  cases h <;> rfl

end Command

/-- A call touches the stored checkpoints with its first event only, by which a unit is suspended or
complete. -/
theorem Script.deposits {σ : Type} {s : Session σ} {c : Command} {answer : Except Refusal Answer}
    {es : List Event} (h : Script s c answer es) :
    (∀ e ∈ es, e.isDeposit = false) ∧
        (∀ report, answer = .ok (.ended (some report)) → c.suspension? = none) ∨
      ∃ e rest report, es = e :: rest ∧ answer = .ok (.ended (some report)) ∧
        (∀ e ∈ rest, e.isDeposit = false) ∧
        ((∃ id data, e = .suspend id data ∧ c.suspension? = some (id, data)) ∨
          ∃ id, e = .complete id ∧ c.completion? = some id) := by
  have later {es : List Event} (filled : ∀ e ∈ es, e.isPromotion = true) :
      ∀ e ∈ es ++ [.flush], e.isDeposit = false :=
    List.forall_mem_append.2 ⟨fun e he => Session.isDeposit_of_isPromotion (filled e he), by
      simp [Event.isDeposit]⟩
  cases h with
  | ended told ends filled =>
      have others := later filled
      cases ends with
      | completed =>
          exact .inr ⟨_, _, _, rfl, rfl, others, .inr ⟨_, rfl, by cases told <;> rfl⟩⟩
      | suspended =>
          exact .inr ⟨_, _, _, rfl, rfl, others, .inl ⟨_, _, rfl, by cases told <;> rfl⟩⟩
      | retried | failed =>
          exact .inl ⟨List.forall_mem_cons.2 ⟨rfl, others⟩, fun _ _ => told.suspension?_failed⟩
  | unended told failed =>
      refine .inl ⟨?_, nofun⟩
      rcases failed with rfl | rfl <;> simp [Event.isDeposit]
  | requested launched => exact .inl ⟨by cases launched <;> simp [Event.isDeposit], fun _ _ => rfl⟩
  | expired expiries =>
      exact .inl ⟨expiries.forall_events (fun _ => rfl) (fun _ => ⟨rfl, rfl⟩)
        (fun _ => Session.isDeposit_of_isPromotion) rfl, fun _ _ => rfl⟩
  | archived withdrawn | parted withdrawn =>
      refine .inl ⟨?_, fun _ _ => rfl⟩
      rcases withdrawn with rfl | rfl <;> simp [Event.isDeposit]
  | refused => exact .inl ⟨List.forall_mem_nil _, nofun⟩
  | reinstated => exact .inl ⟨by simp [Event.isDeposit], nofun⟩
  | late => exact .inl ⟨List.forall_mem_nil _, nofun⟩
  | _ => exact .inl ⟨by simp [Event.isDeposit], fun _ _ => rfl⟩

theorem Script.later {σ : Type} {s : Session σ} {c : Command} {answer : Except Refusal Answer}
    {es : List Event} (h : Script s c answer es) : ∀ e ∈ es.tail, e.isDeposit = false := by
  obtain ⟨others, _⟩ | ⟨_, rest, _, rfl, _, others, _⟩ := h.deposits
  · exact fun e he => others e (List.mem_of_mem_tail he)
  · exact others

/-- The checkpoint of a unit that comes after those of the log. -/
def Checkpoint.next (log : List Checkpoint) (id : UnitId) (data : CheckpointData)
    (createdAt : Timestamp) : Checkpoint :=
  ⟨id, iterationOf log.getLast? + 1, data, createdAt⟩

namespace Call

variable {σ : Type} (back : Checkpoint → Option Checkpoint)
  (stored : σ → UnitId → List Checkpoint) (onFile : σ → List WorkUnit)

/-- The checkpoint that a call saves. -/
def saved? (c : Call σ) : Option Checkpoint :=
  match c.command.suspension?, c.answer with
  | some (id, data), .ok (.ended (some _)) =>
    some (.next (stored c.before.storage id) id data c.before.date)
  | _, _ => none

def savedFor (c : Call σ) (id : UnitId) : List Checkpoint :=
  (c.saved? stored).toList.filter (·.unitId = id)

def Completes (c : Call σ) (id : UnitId) : Prop :=
  c.command.completion? = some id ∧ ∃ report, c.answer = .ok (.ended (some report))

/-- The call completes the unit and deletes its checkpoints. -/
def Discards (c : Call σ) (id : UnitId) : Prop :=
  c.Completes id ∧ stored c.before.storage id ≠ [] ∧ stored c.after.storage id = []

/-- The call discards the checkpoints of the unit and cannot write down that it is complete. -/
def LosesProgress (c : Call σ) (id : UnitId) : Prop :=
  c.Discards stored id ∧ onFile c.after.storage ≠ c.after.scheduler.graph.records

/-- What the call saves is read back, and from then on as it is. -/
def Fits (c : Call σ) : Prop :=
  ∀ ck ∈ c.saved? stored, ∃ read, back ck = some read ∧ back read = some read

theorem fits_some (c : Call σ) : c.Fits some stored :=
  fun ck _ => ⟨ck, rfl, rfl⟩

/-- What a call does to the stored checkpoints. -/
inductive Deposits (c : Call σ) : Prop
  | nothing (none : c.saved? stored = none)
      (same : stored c.after.storage = stored c.before.storage)
  | saves {ck : Checkpoint} (some : c.saved? stored = some ck) (positive : 0 < ck.iteration)
      (unfinished : ¬ c.before.scheduler.graph.IsDone ck.unitId)
      (added : stored c.after.storage = Function.update (stored c.before.storage) ck.unitId
        (stored c.before.storage ck.unitId ++ (back ck).toList))
  | empties {id : UnitId} (completes : c.Completes id)
      (done : c.after.scheduler.graph.IsDone id)
      (emptied : stored c.after.storage = Function.update (stored c.before.storage) id [])

variable {back stored} {c : Call σ} {id : UnitId}

theorem saved?_eq_none (h : c.command.suspension? = none) : c.saved? stored = none := by
  rw [saved?, h]

theorem saved?_of_suspended {data : CheckpointData} {report : TransitionReport}
    (asked : c.command.suspension? = some (id, data))
    (answered : c.answer = .ok (.ended (some report))) :
    c.saved? stored = some (.next (stored c.before.storage id) id data c.before.date) := by
  rw [saved?, asked, answered]

theorem saved?_of_unended
    (h : ∀ report, c.answer = .ok (.ended (some report)) → c.command.suspension? = none) :
    c.saved? stored = none := by
  unfold saved?
  split
  · next asked answered => cases asked.symm.trans (h _ answered)
  · rfl

/-- For one unit: what is read back of what the call saves is added, or the unit is complete and all
is gone. -/
theorem Deposits.at (h : c.Deposits back stored) (id : UnitId) :
    (stored c.after.storage id =
          stored c.before.storage id ++ (c.savedFor stored id).filterMap back ∧
        ¬ c.Discards stored id ∧
        (c.before.scheduler.graph.IsDone id → c.savedFor stored id = [])) ∨
      c.Discards stored id ∧ c.after.scheduler.graph.IsDone id ∧ c.savedFor stored id = [] := by
  have untouched (unsaved : c.savedFor stored id = [])
      (same : stored c.after.storage id = stored c.before.storage id) :
      stored c.after.storage id =
          stored c.before.storage id ++ (c.savedFor stored id).filterMap back ∧
        ¬ c.Discards stored id ∧
        (c.before.scheduler.graph.IsDone id → c.savedFor stored id = []) := by
    refine ⟨?_, fun discards => discards.2.1 (same ▸ discards.2.2), fun _ => unsaved⟩
    rw [same, unsaved, List.filterMap_nil, List.append_nil]
  cases h with
  | nothing none same => exact .inl (untouched (by simp [savedFor, none]) (by rw [same]))
  | @saves ck some positive unfinished added =>
      refine .inl ?_
      have changed := congrFun added id
      by_cases hid : id = ck.unitId
      · subst hid
        have saved : c.savedFor stored ck.unitId = [ck] := by simp [savedFor, some]
        have read : (c.savedFor stored ck.unitId).filterMap back = (back ck).toList := by
          rw [saved, List.filterMap_cons]
          cases back ck <;> rfl
        rw [Function.update_self, ← read] at changed
        refine ⟨changed, ?_, fun done => absurd done unfinished⟩
        intro discards
        exact discards.2.1 (List.append_eq_nil_iff.1 (changed.symm.trans discards.2.2)).1
      · rw [Function.update_of_ne hid] at changed
        exact untouched (by simp [savedFor, some, Ne.symm hid]) changed
  | @empties k completes done emptied =>
      have unsaved : c.savedFor stored id = [] := by
        simp [savedFor, saved?_eq_none (Command.suspension?_of_completion? completes.1)]
      have changed := congrFun emptied id
      by_cases hid : id = k
      · subst hid
        rw [Function.update_self] at changed
        by_cases before : stored c.before.storage id = []
        · exact .inl (untouched unsaved (changed.trans before.symm))
        · exact .inr ⟨⟨completes, before, changed⟩, done, unsaved⟩
      · rw [Function.update_of_ne hid] at changed
        exact .inl (untouched unsaved changed)

theorem Deposits.positive (h : c.Deposits back stored) {ck : Checkpoint}
    (hck : ck ∈ c.savedFor stored id) : 0 < ck.iteration := by
  have hsaved := Option.mem_toList.1 (List.mem_of_mem_filter hck)
  cases h with
  | nothing none same => cases none.symm.trans hsaved
  | saves some positive unfinished added =>
      cases some.symm.trans hsaved
      exact positive
  | empties completes done emptied =>
      cases (saved?_eq_none (Command.suspension?_of_completion? completes.1)).symm.trans hsaved

theorem Deposits.settled (h : c.Deposits back stored) (fits : c.Fits back stored)
    (settled : Checkpoint.Settled back (stored c.before.storage)) :
    Checkpoint.Settled back (stored c.after.storage) := by
  have update {id : UnitId} {log : List Checkpoint} (hlog : ∀ ck ∈ log, back ck = some ck) :
      Checkpoint.Settled back (Function.update (stored c.before.storage) id log) :=
    (Function.forall_update_iff _ fun _ log => ∀ ck ∈ log, back ck = some ck).2
      ⟨hlog, fun k _ => settled k⟩
  cases h with
  | nothing none same => exact same ▸ settled
  | @saves ck some positive unfinished added =>
      rw [added]
      obtain ⟨read, hread, again⟩ := fits ck some
      rw [hread]
      exact update (List.forall_mem_append.2 ⟨settled _, List.forall_mem_singleton.2 again⟩)
  | empties completes done emptied =>
      rw [emptied]
      exact update nofun

end Call

namespace Session

variable {σ : Type} [Storage σ] {good : σ → Prop} {back : Checkpoint → Option Checkpoint}
  {stored : σ → UnitId → List Checkpoint} {m n s t : Session σ} {e : Event} {es : List Event}
  {id : UnitId} {calls : List (Call σ)} {c : Call σ}

open Storage

/-! ### What a call does to the stored checkpoints -/

theorem Step.stored_suspend (logging : Logging good back stored) {data : CheckpointData}
    (h : Step m (.suspend id data) n) (hm : good m.storage) :
    let ck := Checkpoint.next (stored m.storage id) id data m.date
    0 < ck.iteration ∧ ¬ m.scheduler.graph.IsDone id ∧ stored n.storage =
      Function.update (stored m.storage) id (stored m.storage id ++ (back ck).toList) := by
  cases h with
  | @suspend _ _ _ _ latest storage storage' live status slot read saved =>
      obtain ⟨hr, same⟩ := logging.read read hm
      obtain rfl := logging.newest m.storage id latest hm (congrArg Prod.fst read)
      obtain ⟨newer, added⟩ := logging.added storage _ hr (congrArg Prod.fst saved)
      rw [saved, same] at added
      refine ⟨UInt32.lt_of_le_of_lt UInt32.zero_le newer, ?_, added⟩
      intro done
      cases (done.status_eq live).symm.trans status

theorem Step.stored_complete (logging : Logging good back stored) (h : Step m (.complete id) n)
    (hm : good m.storage) (settled : Checkpoint.Settled back (stored m.storage)) :
    stored n.storage = stored m.storage ∨
      stored n.storage = Function.update (stored m.storage) id [] := by
  cases h with
  | complete live status slot =>
      cases deleted : (Storage.deleteAll id m.storage).1 with
      | error refusal => exact .inl ((logging.deleteAll m.storage id hm).2 refusal deleted)
      | ok => exact .inr (logging.emptied m.storage id hm settled deleted)

theorem call_deposits (logging : Logging good back stored) (kept : t.scheduler.Kept)
    (ht : good t.storage) (settled : Checkpoint.Settled back (stored t.storage))
    (command : Command) : (t.call command).Deposits back stored := by
  have careful := logging.toCareful
  obtain ⟨es, script, trace⟩ := call_script kept command
  obtain ⟨others, unsaved⟩ | ⟨first, rest, report, rfl, answered, others, suspends | completes⟩ :=
    script.deposits
  · exact .nothing (Call.saved?_of_unended unsaved) (trace.spares careful ht others).2
  · obtain ⟨id, data, rfl, asked⟩ := suspends
    cases trace with
    | cons step rest =>
        obtain ⟨positive, unfinished, added⟩ := step.stored_suspend logging ht
        have same := (rest.spares careful (step.keeps_good careful ht) others).2
        exact .saves (Call.saved?_of_suspended asked answered) positive unfinished
          (same.trans added)
  · obtain ⟨id, rfl, asked⟩ := completes
    cases trace with
    | cons step rest =>
        have same := (rest.spares careful (step.keeps_good careful ht) others).2
        rcases step.stored_complete logging ht settled with left | emptied
        · exact .nothing (Call.saved?_eq_none (Command.suspension?_of_completion? asked))
            (same.trans left)
        · exact .empties ⟨asked, report, answered⟩
            (rest.done (step.kept kept) step.done_complete) (same.trans emptied)

/-! ### Runs -/

/-- The checkpoints of a unit that the calls save. -/
def saved (stored : σ → UnitId → List Checkpoint) (calls : List (Call σ)) (id : UnitId) :
    List Checkpoint := calls.flatMap (·.savedFor stored id)

omit [Storage σ] in
theorem saved_snoc (calls : List (Call σ)) (c : Call σ) (id : UnitId) :
    saved stored (calls ++ [c]) id = saved stored calls id ++ c.savedFor stored id := by
  simp [saved]

section

variable (logging : Logging good back stored) (opened : Opened s) (start : good s.storage)
  (clean : Checkpoint.Settled back (stored s.storage))
include logging opened start clean

/-- As long as all that is saved is read back, all that is stored is read back as it is. -/
theorem Run.settled (run : Run s calls t) (fits : ∀ c ∈ calls, c.Fits back stored) :
    Checkpoint.Settled back (stored t.storage) := by
  induction run with
  | nil => exact clean
  | wait rest clock date ih => exact ih fits
  | call rest command ih =>
      obtain ⟨before, last⟩ := List.forall_mem_append.1 fits
      exact (call_deposits logging (rest.kept opened) (rest.keeps_good logging.toCareful start)
        (ih before) command).settled (last _ List.mem_cons_self) (ih before)

theorem Run.call_deposits (run : Run s calls t) (fits : ∀ c ∈ calls, c.Fits back stored)
    (command : Command) : (t.call command).Deposits back stored :=
  Session.call_deposits logging (run.kept opened) (run.keeps_good logging.toCareful start)
    (run.settled logging opened start clean fits) command

theorem Run.deposits (run : Run s calls t) (fits : ∀ c ∈ calls, c.Fits back stored) :
    ∀ c ∈ calls, c.Deposits back stored := by
  induction run with
  | nil => simp
  | wait rest clock date ih => exact ih fits
  | call rest command ih =>
      obtain ⟨before, _⟩ := List.forall_mem_append.1 fits
      have last := rest.call_deposits logging opened start clean before command
      exact List.forall_mem_append.2 ⟨ih before, List.forall_mem_singleton.2 last⟩

/-- The log of a unit holds what it held and what is read back of what was saved, until a call
discards it all. -/
theorem Run.ledger (run : Run s calls t) (fits : ∀ c ∈ calls, c.Fits back stored) (id : UnitId) :
    (stored t.storage id = stored s.storage id ++ (saved stored calls id).filterMap back ∧
        ∀ c ∈ calls, ¬ c.Discards stored id) ∨
      stored t.storage id = [] ∧ t.scheduler.graph.IsDone id ∧
        stored s.storage id ++ (saved stored calls id).filterMap back ≠ [] ∧
        ∃ c ∈ calls, c.Discards stored id := by
  induction run with
  | nil => exact .inl ⟨by simp [saved], by simp⟩
  | wait rest clock date ih => exact ih fits
  | @call calls t rest command ih =>
      obtain ⟨before, _⟩ := List.forall_mem_append.1 fits
      have kept := rest.kept opened
      have last := rest.call_deposits logging opened start clean before command
      rw [saved_snoc, List.filterMap_append, ← List.append_assoc]
      obtain ⟨held, untouched⟩ | ⟨gone, done, some, c, hc, discards⟩ := ih before
      · obtain ⟨grown, keeps, _⟩ | ⟨discards, done, unsaved⟩ := last.at id
        · refine .inl ⟨?_, by simpa [or_imp, forall_and] using ⟨untouched, keeps⟩⟩
          rw [← held]
          exact grown
        · refine .inr ⟨discards.2.2, done, ?_, _, List.mem_append_right _ List.mem_cons_self, discards⟩
          rw [unsaved, List.filterMap_nil, List.append_nil, ← held]
          exact discards.2.1
      · obtain ⟨es, trace⟩ := call_trace t command
        have unsaved : (t.call command).savedFor stored id = [] ∧
            stored (t.call command).after.storage id = [] := by
          obtain ⟨grown, _, final⟩ | ⟨again, _⟩ := last.at id
          · have unsaved := final done
            rw [unsaved, List.filterMap_nil, List.append_nil] at grown
            exact ⟨unsaved, grown.trans gone⟩
          · exact absurd gone again.2.1
        refine .inr ⟨unsaved.2, trace.done kept done, ?_, c, List.mem_append_left _ hc, discards⟩
        rw [unsaved.1, List.filterMap_nil, List.append_nil]
        exact some

end

end Session

end BuildAdmission
