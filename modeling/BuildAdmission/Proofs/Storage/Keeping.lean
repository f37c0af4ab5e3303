import BuildAdmission.Proofs.Storage

namespace BuildAdmission

/-- In a good state, the checkpoint that is read of a unit is the last of its log. -/
structure Storage.Legible {σ : Type} [Storage σ] (good : σ → Prop)
    (stored : σ → UnitId → List Checkpoint) : Prop extends Storage.Careful good stored where
  newest : ∀ v id latest, good v → (Storage.latest? id v).1 = .ok latest →
    latest = (stored v id).getLast?

/-- The data with another time spent. -/
def CheckpointData.rounded (round : Duration → Duration) (data : CheckpointData) : CheckpointData :=
  { data with timeSpent := round data.timeSpent }

/-- Of what is read back only times differ: those that were spent are rounded. -/
def Checkpoint.Retimed (back : Checkpoint → Option Checkpoint) (round : Duration → Duration) :
    Prop :=
  ∀ c c', back c = some c' →
    c' = { c with data := c.data.rounded round, createdAt := c'.createdAt }

/-- Every checkpoint of the logs is read back as it is. -/
def Checkpoint.Settled (back : Checkpoint → Option Checkpoint) (logs : UnitId → List Checkpoint) :
    Prop :=
  ∀ id, ∀ c ∈ logs id, back c = some c

theorem Checkpoint.retimed_some : Retimed some id := by
  rintro c _ ⟨⟩
  rfl

theorem Checkpoint.settled_of_empty {back : Checkpoint → Option Checkpoint}
    {logs : UnitId → List Checkpoint} (empty : ∀ id, logs id = []) : Settled back logs := by
  intro id
  rw [empty id]
  exact nofun

theorem Checkpoint.settled_some (logs : UnitId → List Checkpoint) : Settled some logs :=
  fun _ _ _ => rfl

/-- A storage that adds to a unit's log what is read back of a checkpoint that is saved. It empties a
log when it is told to, and the others stay as they are unless they hold what is not read back as it
is. -/
structure Storage.Logging {σ : Type} [Storage σ] (good : σ → Prop)
    (back : Checkpoint → Option Checkpoint) (stored : σ → UnitId → List Checkpoint) : Prop
    extends Storage.Legible good stored where
  retimed : ∃ round, Checkpoint.Retimed back round
  added : ∀ v c, good v → (Storage.save c v).1 = .ok () →
    Checkpoint.iterationOf (stored v c.unitId).getLast? < c.iteration ∧
      stored (Storage.save c v).2 =
        Function.update (stored v) c.unitId (stored v c.unitId ++ (back c).toList)
  emptied : ∀ v id, good v → Checkpoint.Settled back (stored v) →
    (Storage.deleteAll id v).1 = .ok () →
    stored (Storage.deleteAll id v).2 = Function.update (stored v) id []

/-- A storage that has the records on file that it last accepted. -/
structure Storage.Recording {σ : Type} [Storage σ] (good : σ → Prop)
    (stored : σ → UnitId → List Checkpoint) (onFile : σ → List WorkUnit) : Prop
    extends Storage.Legible good stored where
  found : ∀ v us, good v → (Storage.load v).1 = .ok us → us = onFile v
  written : ∀ v us, good v → (Storage.flush us v).1 = .ok () → onFile (Storage.flush us v).2 = us

/-- A storage for logs and records, where a call that fails changes neither. -/
structure Storage.Keeping {σ : Type} [Storage σ] (good : σ → Prop)
    (back : Checkpoint → Option Checkpoint) (stored : σ → UnitId → List Checkpoint)
    (onFile : σ → List WorkUnit) : Prop
    extends Storage.Logging good back stored, Storage.Recording good stored onFile where
  unwritten : ∀ v us refusal, good v → (Storage.flush us v).1 = .error refusal →
    onFile (Storage.flush us v).2 = onFile v
  elsewhere : ∀ v, good v → (∀ id, onFile (Storage.latest? id v).2 = onFile v) ∧
    (∀ c, onFile (Storage.save c v).2 = onFile v) ∧
    (∀ id, onFile (Storage.deleteAll id v).2 = onFile v)

/-- A storage for records that never fails to read the log of a unit with a name it accepts, or to
load or write the records. -/
structure Storage.Reliable {σ : Type} [Storage σ] (sound : σ → Prop) (accepted : UnitId → Prop)
    (stored : σ → UnitId → List Checkpoint) (onFile : σ → List WorkUnit) : Prop
    extends Storage.Recording sound stored onFile where
  reads : ∀ v id, sound v → accepted id → ∃ latest, (Storage.latest? id v).1 = .ok latest
  loads : ∀ v, sound v → ∃ us, (Storage.load v).1 = .ok us
  flushes : ∀ v us, sound v → (Storage.flush us v).1 = .ok ()

/-- A storage for logs, which can always be read and deleted for a unit with a name it accepts, and
which refuses no checkpoint that is newer than those before it. -/
structure Storage.Steady {σ : Type} [Storage σ] (good : σ → Prop) (accepted : UnitId → Prop)
    (back : Checkpoint → Option Checkpoint) (stored : σ → UnitId → List Checkpoint) : Prop
    extends Storage.Logging good back stored where
  reads : ∀ v id, good v → accepted id → ∃ latest, (Storage.latest? id v).1 = .ok latest
  saves : ∀ v c, good v → accepted c.unitId →
    (Storage.save c v).1 = Checkpoint.checkNewer c.unitId c.iteration
      (Checkpoint.iterationOf (stored v c.unitId).getLast?)
  deletes : ∀ v id, good v → accepted id → (Storage.deleteAll id v).1 = .ok ()

section

variable {σ : Type} [Storage σ] {good : σ → Prop} {back : Checkpoint → Option Checkpoint}
  {stored : σ → UnitId → List Checkpoint} {onFile : σ → List WorkUnit} {v v' : σ} {id : UnitId}
  {c : Checkpoint}

theorem Storage.Keeping.onFile_read (h : Keeping good back stored onFile)
    {result : Except Refusal (Option Checkpoint)} (read : Storage.latest? id v = (result, v'))
    (hv : good v) : onFile v' = onFile v := by
  have := (h.elsewhere v hv).1 id
  rwa [read] at this

theorem Storage.Keeping.onFile_saved (h : Keeping good back stored onFile)
    {result : Except Refusal Unit} (saved : Storage.save c v = (result, v')) (hv : good v) :
    onFile v' = onFile v := by
  have := (h.elsewhere v hv).2.1 c
  rwa [saved] at this

end

/-- The records that were last written. -/
def Vault.onFile : Vault → List WorkUnit
  | .memory _ registry => registry.units
  | .files tree _ records => (records.load tree).toOption.getD []

theorem CheckpointMemory.history_deleteAll (m : CheckpointMemory) (id : UnitId) :
    (m.deleteAll id).history = Function.update m.history id [] := by
  funext k
  rw [history, deleteAll, IdMap.find?_erase]
  by_cases hk : k = id
  · rw [hk, if_pos rfl, Function.update_self]
    rfl
  · rw [if_neg hk, Function.update_of_ne hk]
    rfl

theorem Vault.keeping_memory : Storage.Keeping
    (fun v : Vault => ∃ checkpoints registry, v = .memory checkpoints registry) some Vault.history
    Vault.onFile where
  toCareful := Vault.careful_memory
  retimed := ⟨id, Checkpoint.retimed_some⟩
  newest := by
    rintro _ id latest ⟨checkpoints, registry, rfl⟩ read
    cases read
    rfl
  added := by
    rintro _ c ⟨checkpoints, registry, rfl⟩ accepted
    rcases checkpoints.save_cases c with ⟨_, appended, newer⟩ | ⟨⟨refusal, refused⟩, _⟩
    · exact ⟨newer, appended⟩
    · cases accepted.symm.trans refused
  emptied := by
    rintro _ id ⟨checkpoints, registry, rfl⟩ _ _
    exact checkpoints.history_deleteAll id
  found := by
    rintro _ us ⟨checkpoints, registry, rfl⟩ loaded
    cases loaded
    rfl
  written := by
    rintro _ us ⟨checkpoints, registry, rfl⟩ _
    rfl
  unwritten := by
    rintro _ us refusal ⟨checkpoints, registry, rfl⟩ refused
    cases refused
  elsewhere := by
    rintro _ ⟨checkpoints, registry, rfl⟩
    exact ⟨fun _ => rfl, fun _ => rfl, fun _ => rfl⟩

theorem Vault.reliable_memory : Storage.Reliable
    (fun v : Vault => ∃ checkpoints registry, v = .memory checkpoints registry) (fun _ => True)
    Vault.history Vault.onFile where
  toRecording := Vault.keeping_memory.toRecording
  reads := by
    rintro _ id ⟨checkpoints, registry, rfl⟩ _
    exact ⟨_, rfl⟩
  loads := by
    rintro _ ⟨checkpoints, registry, rfl⟩
    exact ⟨_, rfl⟩
  flushes := by
    rintro _ us ⟨checkpoints, registry, rfl⟩
    rfl

theorem Checkpoint.checkNewer_eq (id : UnitId) (attempted last : UInt32) :
    checkNewer id attempted last =
      if last < attempted then .ok () else .error (.staleIteration id attempted last) := by
  rw [checkNewer]
  by_cases stale : attempted ≤ last
  · rw [if_pos stale, if_neg (UInt32.not_lt.2 stale)]
  · rw [if_neg stale, if_pos (UInt32.not_le.1 stale)]

theorem CheckpointMemory.save_answer (m : CheckpointMemory) (c : Checkpoint) :
    (m.save c).1 = Checkpoint.checkNewer c.unitId c.iteration
      (Checkpoint.iterationOf (m.history c.unitId).getLast?) := by
  cases verdict : Checkpoint.checkNewer c.unitId c.iteration
    (Checkpoint.iterationOf (m.history c.unitId).getLast?) <;> simp only [save, verdict]

theorem Vault.steady_memory : Storage.Steady
    (fun v : Vault => ∃ checkpoints registry, v = .memory checkpoints registry) (fun _ => True)
    some Vault.history where
  toLogging := Vault.keeping_memory.toLogging
  reads := by
    rintro _ id ⟨checkpoints, registry, rfl⟩ _
    exact ⟨_, rfl⟩
  saves := by
    rintro _ c ⟨checkpoints, registry, rfl⟩ _
    exact checkpoints.save_answer c
  deletes := by
    rintro _ id ⟨checkpoints, registry, rfl⟩ _
    rfl

theorem Faulty.keeping {σ : Type} [Storage σ] {good : σ → Prop}
    {back : Checkpoint → Option Checkpoint} {stored : σ → UnitId → List Checkpoint}
    {onFile : σ → List WorkUnit} (h : Storage.Keeping good back stored onFile) :
    Storage.Keeping (fun v : Faulty σ => good v.inner) back (fun v => stored v.inner)
      (fun v => onFile v.inner) where
  toCareful := Faulty.careful h.toCareful
  newest v id latest hv := call_rule
    (P := fun r _ => r = .ok latest → latest = (stored v.inner id).getLast?)
    (fun _ failed => nomatch failed) (h.newest v.inner id latest hv)
  retimed := h.retimed
  added v c hv := call_rule
    (P := fun r w => r = .ok () →
      Checkpoint.iterationOf (stored v.inner c.unitId).getLast? < c.iteration ∧
        stored w =
          Function.update (stored v.inner) c.unitId (stored v.inner c.unitId ++ (back c).toList))
    (fun _ failed => nomatch failed) (h.added v.inner c hv)
  emptied v id hv settled := call_rule
    (P := fun r w => r = .ok () → stored w = Function.update (stored v.inner) id [])
    (fun _ failed => nomatch failed) (h.emptied v.inner id hv settled)
  found v us hv := call_rule (P := fun r _ => r = .ok us → us = onFile v.inner)
    (fun _ failed => nomatch failed) (h.found v.inner us hv)
  written v us hv := call_rule (P := fun r w => r = .ok () → onFile w = us)
    (fun _ failed => nomatch failed) (h.written v.inner us hv)
  unwritten v us refusal hv := call_rule
    (P := fun r w => r = .error refusal → onFile w = onFile v.inner)
    (fun _ _ => rfl) (h.unwritten v.inner us refusal hv)
  elsewhere v hv := by
    obtain ⟨read, saved, deleted⟩ := h.elsewhere v.inner hv
    refine ⟨fun id => ?_, fun c => ?_, fun id => ?_⟩
    · exact call_rule (P := fun _ w => onFile w = onFile v.inner) (fun _ => rfl) (read id)
    · exact call_rule (P := fun _ w => onFile w = onFile v.inner) (fun _ => rfl) (saved c)
    · exact call_rule (P := fun _ w => onFile w = onFile v.inner) (fun _ => rfl) (deleted id)

end BuildAdmission
