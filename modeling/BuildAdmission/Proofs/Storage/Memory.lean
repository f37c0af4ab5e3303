import BuildAdmission.Proofs.Storage.Exchange
import Mathlib.Data.Set.Card

namespace BuildAdmission

/-! ### Logs that were opened in memory -/

namespace CheckpointMemory

variable {m : CheckpointMemory} {c : Checkpoint} {id : UnitId} {refusal : Refusal}

/-- A log is opened by every checkpoint that is handed in. -/
theorem contains_save (m : CheckpointMemory) (c : Checkpoint) (id : UnitId) :
    (m.save c).2.logs.contains id = true ↔ c.unitId = id ∨ m.logs.contains id = true := by
  have insert (log : List Checkpoint) : (m.logs.insert c.unitId log).contains id = true ↔
      c.unitId = id ∨ m.logs.contains id = true := by
    simp only [IdMap.contains_iff, IdMap.find?_insert]
    split
    · next same => simp [same]
    · next other => simp [Ne.symm other]
  unfold save
  dsimp only
  split
  · exact insert _
  · exact insert _

theorem contains_deleteAll (m : CheckpointMemory) (id k : UnitId) :
    (m.deleteAll id).logs.contains k = true ↔ k ≠ id ∧ m.logs.contains k = true := by
  simp only [deleteAll, IdMap.contains_iff, IdMap.find?_erase]
  split
  · next same => simp [same]
  · next other => simp [other]

theorem history_eq_nil (h : ¬m.logs.contains id = true) : m.history id = [] := by
  rw [history, IdMap.contains_eq_false_iff.1 (Bool.eq_false_of_not_eq_true h)]
  rfl

/-- What a refused checkpoint leaves behind is at most the log that was opened for it. -/
theorem save_refused (refused : (m.save c).1 = .error refusal) :
    (m.save c).2 = ⟨m.logs.insert c.unitId (m.history c.unitId)⟩ := by
  have answer := refused
  rw [save_answer] at answer
  simp only [save, answer]

theorem save_refused_eq_iff (refused : (m.save c).1 = .error refusal) :
    (m.save c).2 = m ↔ m.logs.contains c.unitId = true := by
  constructor
  · intro same
    rw [← same]
    exact (m.contains_save c c.unitId).2 (.inl rfl)
  · intro opened
    obtain ⟨log, found⟩ := IdMap.contains_iff.1 opened
    rw [save_refused refused]
    obtain ⟨logs⟩ := m
    refine congrArg CheckpointMemory.mk (IdMap.ext fun k => ?_)
    rw [IdMap.find?_insert]
    split
    · next same => rw [same, history, found, Option.getD_some]
    · rfl

/-- Every log that was opened counts, also an empty one. -/
theorem unitCount_eq (m : CheckpointMemory) : m.unitCount =
    {id | m.history id ≠ []}.ncard + {id | m.logs.contains id = true ∧ m.history id = []}.ncard := by
  have keys : {id | m.logs.contains id = true} = ↑m.logs.keys.toFinset := by
    ext id
    rw [Set.mem_ofPred_eq, Finset.mem_coe, List.mem_toFinset, IdMap.mem_keys_iff, IdMap.contains_iff]
  have finite : {id | m.logs.contains id = true}.Finite := keys ▸ m.logs.keys.toFinset.finite_toSet
  have parts : {id | m.logs.contains id = true} =
      {id | m.history id ≠ []} ∪ {id | m.logs.contains id = true ∧ m.history id = []} := by
    ext id
    by_cases opened : m.logs.contains id = true
    · simp [opened, or_comm, em]
    · simp [opened, history_eq_nil opened]
  have apart : Disjoint {id | m.history id ≠ []}
      {id | m.logs.contains id = true ∧ m.history id = []} :=
    Set.disjoint_left.2 fun _ some none => some none.2
  have total : m.unitCount = {id | m.logs.contains id = true}.ncard := by
    rw [keys, Set.ncard_coe_finset, List.toFinset_card_of_nodup m.logs.nodup_keys,
      IdMap.length_keys, unitCount]
  rw [parts] at finite
  obtain ⟨held, hollow⟩ := Set.finite_union.1 finite
  rw [total, parts, Set.ncard_union_eq apart held hollow]

end CheckpointMemory

/-! ### Runs of calls -/

namespace LogCall

variable {p : Checkpoint → Prop} {id : UnitId} {calls : List LogCall} {call : LogCall}

/-- Checkpoints in memory, none at first, after the calls. -/
def memoryAfter (calls : List LogCall) : CheckpointMemory :=
  calls.foldl (fun m call => (call.inMemory m).2) .empty

/-- Since the checkpoints of the unit were last deleted, one that satisfies `p` was handed in,
whether it was accepted or not. -/
def HandedIn (p : Checkpoint → Prop) (id : UnitId) (calls : List LogCall) : Prop :=
  ∃ before c after, calls = before ++ save c :: after ∧ c.unitId = id ∧ p c ∧
    deleteAll id ∉ after

/-- Checkpoints of the unit were handed in, but none that could be accepted. -/
def Hollow (id : UnitId) (calls : List LogCall) : Prop :=
  HandedIn (fun _ => True) id calls ∧ ¬HandedIn (0 < ·.iteration) id calls

theorem handedIn_snoc : HandedIn p id (calls ++ [call]) ↔
    (∃ c, call = save c ∧ c.unitId = id ∧ p c) ∨ call ≠ deleteAll id ∧ HandedIn p id calls := by
  constructor
  · rintro ⟨before, c, after, split, named, hp, kept⟩
    rcases List.eq_nil_or_concat after with rfl | ⟨after, last, rfl⟩
    · exact .inl ⟨c, List.singleton_inj.1 (List.append_inj_right' split rfl), named, hp⟩
    · rw [List.concat_eq_append] at split kept
      rw [← List.cons_append, ← List.append_assoc] at split
      obtain ⟨rfl, same⟩ := List.append_inj' split rfl
      obtain rfl := List.singleton_inj.1 same
      rw [List.mem_append, List.mem_singleton, not_or] at kept
      exact .inr ⟨Ne.symm kept.2, before, c, after, rfl, named, hp, kept.1⟩
  · rintro (⟨c, rfl, named, hp⟩ | ⟨kept, before, c, after, rfl, named, hp, others⟩)
    · exact ⟨calls, c, [], rfl, named, hp, List.not_mem_nil⟩
    · refine ⟨before, c, after ++ [call], by simp, named, hp, ?_⟩
      rw [List.mem_append, List.mem_singleton, not_or]
      exact ⟨others, Ne.symm kept⟩

/-- A log is filled by a checkpoint that is newer than its last, or was filled before. -/
theorem onLogs_save_ne_nil (logs : UnitId → List Checkpoint) (c : Checkpoint) :
    ((save c).onLogs logs).2 id ≠ [] ↔ c.unitId = id ∧ 0 < c.iteration ∨ logs id ≠ [] := by
  rw [onLogs]
  split
  · next newer =>
    have positive := UInt32.lt_of_le_of_lt UInt32.zero_le newer
    dsimp only
    by_cases named : c.unitId = id
    · subst named
      simp [positive]
    · rw [Function.update_of_ne (Ne.symm named)]
      simp [named]
  · next stale =>
    dsimp only
    refine (or_iff_right_of_imp ?_).symm
    rintro ⟨rfl, positive⟩ none
    rw [none] at stale
    exact stale positive

/-- A log is opened by the first checkpoint that is handed in, and filled by the first whose
iteration is positive. -/
theorem memoryAfter_log (calls : List LogCall) (id : UnitId) :
    ((memoryAfter calls).logs.contains id = true ↔ HandedIn (fun _ => True) id calls) ∧
      ((memoryAfter calls).history id ≠ [] ↔ HandedIn (0 < ·.iteration) id calls) := by
  induction calls using List.reverseRecOn with
  | nil => simp [memoryAfter, HandedIn, CheckpointMemory.history, CheckpointMemory.empty, IdMap.contains]
  | append_singleton calls call ih =>
      obtain ⟨opened, filled⟩ := ih
      have step : memoryAfter (calls ++ [call]) = (call.inMemory (memoryAfter calls)).2 := by
        rw [memoryAfter, List.foldl_concat]
        rfl
      rw [step, (inMemory_step call rfl).2, handedIn_snoc, handedIn_snoc, ← opened, ← filled]
      cases call with
      | save c =>
          refine ⟨((memoryAfter calls).contains_save c id).trans (by simp), ?_⟩
          exact (onLogs_save_ne_nil _ c).trans (by simp)
      | deleteAll k =>
          refine ⟨((memoryAfter calls).contains_deleteAll k id).trans (by simp [ne_comm]), ?_⟩
          rw [onLogs]
          dsimp only
          by_cases same : id = k
          · subst same
            simp
          · rw [Function.update_of_ne same]
            simp [Ne.symm same]
      | latest | history | latestIteration | reopen => simp [inMemory, onLogs]

/-- A log that is open and empty is one for which nothing could be accepted. -/
theorem hollow_iff : Hollow id calls ↔ (memoryAfter calls).logs.contains id = true ∧
    (memoryAfter calls).history id = [] := by
  obtain ⟨opened, filled⟩ := memoryAfter_log calls id
  rw [Hollow, ← opened, ← filled, not_not]

theorem finite_hollow (calls : List LogCall) : {id | Hollow id calls}.Finite := by
  refine ((memoryAfter calls).logs.keys.toFinset.finite_toSet).subset fun id hid => ?_
  rw [Finset.mem_coe, List.mem_toFinset, IdMap.mem_keys_iff, ← IdMap.contains_iff]
  exact (hollow_iff.1 hid).1

/-- A save that is refused leaves every log as it was. It leaves the checkpoints themselves as they
were unless its iteration is 0 and it is the first since the unit's checkpoints were deleted. The
number of units is too great by those for which nothing was accepted. -/
theorem refused_save_kept (calls : List LogCall) :
    (∀ c refusal, ((memoryAfter calls).save c).1 = .error refusal →
      ((memoryAfter calls).save c).2.history = (memoryAfter calls).history ∧
        (((memoryAfter calls).save c).2 = memoryAfter calls ↔
          (c.iteration = 0 → HandedIn (fun _ => True) c.unitId calls))) ∧
    (memoryAfter calls).unitCount =
      {id | (memoryAfter calls).history id ≠ []}.ncard + {id | Hollow id calls}.ncard ∧
    ((memoryAfter calls).unitCount = {id | (memoryAfter calls).history id ≠ []}.ncard ↔
      ∀ id, ¬Hollow id calls) := by
  have count : (memoryAfter calls).unitCount =
      {id | (memoryAfter calls).history id ≠ []}.ncard + {id | Hollow id calls}.ncard := by
    rw [CheckpointMemory.unitCount_eq]
    exact congrArg _ (congrArg Set.ncard (Set.ext fun _ => hollow_iff.symm))
  refine ⟨fun c refusal refused => ?_, count, ?_⟩
  · refine ⟨?_, ?_⟩
    · rcases (memoryAfter calls).save_cases c with ⟨accepted, _⟩ | ⟨_, same⟩
      · cases accepted.symm.trans refused
      · exact same
    · rw [CheckpointMemory.save_refused_eq_iff refused, ← (memoryAfter_log calls c.unitId).1]
      refine ⟨fun opened _ => opened, fun zeroth => ?_⟩
      by_contra closed
      have answer := refused
      rw [CheckpointMemory.save_answer, CheckpointMemory.history_eq_nil closed,
        Checkpoint.checkNewer_eq] at answer
      split at answer
      · cases answer
      · next stale => exact closed (zeroth (UInt32.le_zero_iff.1 (UInt32.not_lt.1 stale)))
  · rw [count, Nat.add_eq_left, Set.ncard_eq_zero (finite_hollow calls), Set.eq_empty_iff_forall_notMem]
    rfl

def zeroth : Checkpoint := { LogDirectory.sample with iteration := 0 }

theorem refused_save_kept_again :
    ((memoryAfter [save LogDirectory.sample]).save LogDirectory.sample).1 =
        .error (.staleIteration "api" 1 1) ∧
      ((memoryAfter [save LogDirectory.sample]).save LogDirectory.sample).2 =
        memoryAfter [save LogDirectory.sample] := by
  have refused : ((memoryAfter [save LogDirectory.sample]).save LogDirectory.sample).1 =
      .error (.staleIteration "api" 1 1) := by decide +kernel
  have kept := (refused_save_kept [save LogDirectory.sample]).1 _ _ refused
  exact ⟨refused, kept.2.2 fun zero => absurd zero (by decide +kernel)⟩

/-- The first save of a unit is refused, and the unit counts although it has no checkpoint. -/
theorem refused_save_counted :
    ((memoryAfter []).save zeroth).1 = .error (.staleIteration "api" 0 0) ∧
      ((memoryAfter []).save zeroth).2 ≠ memoryAfter [] ∧
      ((memoryAfter []).save zeroth).2 = memoryAfter [save zeroth] ∧
      (memoryAfter [save zeroth]).unitCount = 1 ∧
      ∀ id, (memoryAfter [save zeroth]).history id = [] := by
  have refused : ((memoryAfter []).save zeroth).1 = .error (.staleIteration "api" 0 0) := by
    decide +kernel
  refine ⟨refused, by decide +kernel, rfl, by decide +kernel, fun id => ?_⟩
  rcases (memoryAfter []).save_cases zeroth with ⟨accepted, _⟩ | ⟨_, same⟩
  · cases accepted.symm.trans refused
  · exact congrFun same id

end LogCall

end BuildAdmission
