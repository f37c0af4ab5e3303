import BuildAdmission.Proofs.IdMap
import BuildAdmission.Storage.Basic
import Mathlib.Logic.Function.Basic

namespace BuildAdmission

/-- In a good state, a storage loads the records that were last flushed to it. No other call
touches them, and every call leaves the storage in a good state. -/
structure Storage.Faithful {σ : Type} [Storage σ] (good : σ → Prop) : Prop where
  flush : ∀ v us, good v → (Storage.flush us v).1 = .ok () ∧ good (Storage.flush us v).2 ∧
    (Storage.load (Storage.flush us v).2).1 = .ok us
  latest? : ∀ v id, good v → good (Storage.latest? id v).2 ∧
    (Storage.load (Storage.latest? id v).2).1 = (Storage.load v).1
  save : ∀ v c, good v → good (Storage.save c v).2 ∧
    (Storage.load (Storage.save c v).2).1 = (Storage.load v).1
  deleteAll : ∀ v id, good v → good (Storage.deleteAll id v).2 ∧
    (Storage.load (Storage.deleteAll id v).2).1 = (Storage.load v).1
  load : ∀ v, good v → good (Storage.load v).2

/-- In a good state, only a checkpoint that is saved and a log that is deleted touch the stored
checkpoints, and a call that fails does not. Every call leaves the storage in a good state. -/
structure Storage.Careful {σ : Type} [Storage σ] (good : σ → Prop)
    (stored : σ → UnitId → List Checkpoint) : Prop where
  latest? : ∀ v id, good v →
    good (Storage.latest? id v).2 ∧ stored (Storage.latest? id v).2 = stored v
  save : ∀ v c, good v → good (Storage.save c v).2 ∧
    ∀ refusal, (Storage.save c v).1 = .error refusal → stored (Storage.save c v).2 = stored v
  deleteAll : ∀ v id, good v → good (Storage.deleteAll id v).2 ∧
    ∀ refusal, (Storage.deleteAll id v).1 = .error refusal →
      stored (Storage.deleteAll id v).2 = stored v
  flush : ∀ v us, good v →
    good (Storage.flush us v).2 ∧ stored (Storage.flush us v).2 = stored v
  load : ∀ v, good v → good (Storage.load v).2 ∧ stored (Storage.load v).2 = stored v

section

variable {σ : Type} [Storage σ] {good : σ → Prop} {v v' : σ} {id : UnitId} {c : Checkpoint}

theorem Storage.Faithful.read (h : Faithful good) {result : Except Refusal (Option Checkpoint)}
    (read : Storage.latest? id v = (result, v')) (hv : good v) :
    good v' ∧ (Storage.load v').1 = (Storage.load v).1 := by
  have := h.latest? v id hv
  rwa [read] at this

theorem Storage.Faithful.saved (h : Faithful good) {result : Except Refusal Unit}
    (saved : Storage.save c v = (result, v')) (hv : good v) :
    good v' ∧ (Storage.load v').1 = (Storage.load v).1 := by
  have := h.save v c hv
  rwa [saved] at this

variable {stored : σ → UnitId → List Checkpoint}

theorem Storage.Careful.read (h : Careful good stored)
    {result : Except Refusal (Option Checkpoint)} (read : Storage.latest? id v = (result, v'))
    (hv : good v) : good v' ∧ stored v' = stored v := by
  have := h.latest? v id hv
  rwa [read] at this

theorem Storage.Careful.saved (h : Careful good stored) {result : Except Refusal Unit}
    (saved : Storage.save c v = (result, v')) (hv : good v) :
    good v' ∧ ∀ refusal, result = .error refusal → stored v' = stored v := by
  have := h.save v c hv
  rwa [saved] at this

end

namespace CheckpointMemory

variable {m : CheckpointMemory} {c : Checkpoint}

theorem save_cases (m : CheckpointMemory) (c : Checkpoint) :
    (m.save c).1 = .ok () ∧
        (m.save c).2.history = Function.update m.history c.unitId (m.history c.unitId ++ [c]) ∧
        Checkpoint.iterationOf (m.latest? c.unitId) < c.iteration ∨
      (∃ refusal, (m.save c).1 = .error refusal) ∧ (m.save c).2.history = m.history := by
  have insert (log : List Checkpoint) : history ⟨m.logs.insert c.unitId log⟩ =
      Function.update m.history c.unitId log := by
    funext id
    rw [history, IdMap.find?_insert]
    by_cases hid : id = c.unitId
    · subst hid
      simp
    · rw [if_neg hid, Function.update_of_ne hid]
      rfl
  by_cases stale : c.iteration ≤ Checkpoint.iterationOf (m.history c.unitId).getLast?
  · refine .inr ?_
    simp only [save, Checkpoint.checkNewer, if_pos stale, insert, Function.update_eq_self]
    exact ⟨⟨_, rfl⟩, trivial⟩
  · refine .inl ?_
    simp only [save, Checkpoint.checkNewer, if_neg stale, insert]
    exact ⟨trivial, trivial, UInt32.not_le.1 stale⟩

end CheckpointMemory

theorem Vault.faithful_memory :
    Storage.Faithful fun v : Vault => ∃ checkpoints registry, v = .memory checkpoints registry where
  flush := by
    rintro _ us ⟨checkpoints, registry, rfl⟩
    exact ⟨rfl, ⟨_, _, rfl⟩, rfl⟩
  latest? := by
    rintro _ id ⟨checkpoints, registry, rfl⟩
    exact ⟨⟨_, _, rfl⟩, rfl⟩
  save := by
    rintro _ c ⟨checkpoints, registry, rfl⟩
    exact ⟨⟨_, _, rfl⟩, rfl⟩
  deleteAll := by
    rintro _ id ⟨checkpoints, registry, rfl⟩
    exact ⟨⟨_, _, rfl⟩, rfl⟩
  load := by
    rintro _ ⟨checkpoints, registry, rfl⟩
    exact ⟨_, _, rfl⟩

/-- The checkpoints that are stored for a unit. -/
def Vault.history (v : Vault) (id : UnitId) : List Checkpoint :=
  match v with
  | .memory checkpoints _ => checkpoints.history id
  | .files tree logs _ => (logs.history tree id).toOption.getD []

theorem Vault.careful_memory : Storage.Careful
    (fun v : Vault => ∃ checkpoints registry, v = .memory checkpoints registry) Vault.history where
  latest? := by
    rintro _ id ⟨checkpoints, registry, rfl⟩
    exact ⟨⟨_, _, rfl⟩, rfl⟩
  save := by
    rintro _ c ⟨checkpoints, registry, rfl⟩
    refine ⟨⟨_, _, rfl⟩, ?_⟩
    intro refusal refused
    rcases checkpoints.save_cases c with ⟨accepted, _⟩ | ⟨_, same⟩
    · cases accepted.symm.trans refused
    · exact same
  deleteAll := by
    rintro _ id ⟨checkpoints, registry, rfl⟩
    exact ⟨⟨_, _, rfl⟩, fun _ refused => nomatch refused⟩
  flush := by
    rintro _ us ⟨checkpoints, registry, rfl⟩
    exact ⟨⟨_, _, rfl⟩, rfl⟩
  load := by
    rintro _ ⟨checkpoints, registry, rfl⟩
    exact ⟨⟨_, _, rfl⟩, rfl⟩

namespace Faulty

variable {σ α : Type} {v : Faulty σ} {name : StorageCall}

theorem call_failing (act : StateM σ (Except Refusal α)) (h : name ∈ v.failing) :
    call name act v = (.error (.storage ("injected " ++ name.name)), v) := if_pos h

theorem call_working (act : StateM σ (Except Refusal α)) (h : name ∉ v.failing) :
    call name act v = ((act v.inner).1, { v with inner := (act v.inner).2 }) := if_neg h

theorem load_working [Storage σ] (v : Faulty σ) (h : .load ∉ v.failing) :
    (Storage.load v).1 = (Storage.load v.inner).1 := congrArg Prod.fst (call_working Storage.load h)

theorem call_keeps [Storage σ] {good : σ → Prop} (act : StateM σ (Except Refusal α))
    (hv : good v.inner ∧ .load ∉ v.failing ∧ .flush ∉ v.failing)
    (keeps : good (act v.inner).2 ∧ (Storage.load (act v.inner).2).1 = (Storage.load v.inner).1) :
    (good (call name act v).2.inner ∧ .load ∉ (call name act v).2.failing ∧
      .flush ∉ (call name act v).2.failing) ∧
    (Storage.load (call name act v).2).1 = (Storage.load v).1 := by
  by_cases failing : name ∈ v.failing
  · rw [call_failing act failing]
    exact ⟨hv, rfl⟩
  · rw [call_working act failing]
    refine ⟨⟨keeps.1, hv.2⟩, ?_⟩
    calc (Storage.load { v with inner := (act v.inner).2 }).1
      _ = (Storage.load (act v.inner).2).1 := load_working { v with inner := (act v.inner).2 } hv.2.1
      _ = (Storage.load v.inner).1 := keeps.2
      _ = (Storage.load v).1 := (load_working v hv.2.1).symm

/-- A storage of which only the calls for checkpoints are made to fail keeps every record if it
does so when nothing fails. -/
theorem faithful [Storage σ] {good : σ → Prop} (h : Storage.Faithful good) :
    Storage.Faithful fun v : Faulty σ =>
      good v.inner ∧ .load ∉ v.failing ∧ .flush ∉ v.failing where
  flush := by
    intro v us hv
    obtain ⟨accepted, hgood, loaded⟩ := h.flush v.inner us hv.1
    have run : Storage.flush us v = _ := call_working (Storage.flush us) hv.2.2
    rw [run]
    exact ⟨accepted, ⟨hgood, hv.2⟩,
      (load_working { v with inner := (Storage.flush us v.inner).2 } hv.2.1).trans loaded⟩
  latest? v id hv := call_keeps (Storage.latest? id) hv (h.latest? v.inner id hv.1)
  save v c hv := call_keeps (Storage.save c) hv (h.save v.inner c hv.1)
  deleteAll v id hv := call_keeps (Storage.deleteAll id) hv (h.deleteAll v.inner id hv.1)
  load := by
    intro v hv
    have run : Storage.load v = _ := call_working Storage.load hv.2.1
    rw [run]
    exact ⟨h.load v.inner hv.1, hv.2⟩

/-- What holds of a call and where nothing is done holds where the call is made to fail. -/
theorem call_rule {P : Except Refusal α → σ → Prop} {act : StateM σ (Except Refusal α)}
    (fails : ∀ refusal, P (.error refusal) v.inner) (works : P (act v.inner).1 (act v.inner).2) :
    P (call name act v).1 (call name act v).2.inner := by
  by_cases failing : name ∈ v.failing
  · rw [call_failing act failing]
    exact fails _
  · rw [call_working act failing]
    exact works

theorem careful [Storage σ] {good : σ → Prop} {stored : σ → UnitId → List Checkpoint}
    (h : Storage.Careful good stored) :
    Storage.Careful (fun v : Faulty σ => good v.inner) (fun v => stored v.inner) where
  latest? v id hv := call_rule (P := fun _ w => good w ∧ stored w = stored v.inner)
    (fun _ => ⟨hv, rfl⟩) (h.latest? v.inner id hv)
  save v c hv := call_rule
    (P := fun r w => good w ∧ ∀ refusal, r = .error refusal → stored w = stored v.inner)
    (fun _ => ⟨hv, fun _ _ => rfl⟩) (h.save v.inner c hv)
  deleteAll v id hv := call_rule
    (P := fun r w => good w ∧ ∀ refusal, r = .error refusal → stored w = stored v.inner)
    (fun _ => ⟨hv, fun _ _ => rfl⟩) (h.deleteAll v.inner id hv)
  flush v us hv := call_rule (P := fun _ w => good w ∧ stored w = stored v.inner)
    (fun _ => ⟨hv, rfl⟩) (h.flush v.inner us hv)
  load v hv := call_rule (P := fun _ w => good w ∧ stored w = stored v.inner)
    (fun _ => ⟨hv, rfl⟩) (h.load v.inner hv)

end Faulty

end BuildAdmission
