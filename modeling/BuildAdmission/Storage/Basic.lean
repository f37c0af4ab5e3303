import BuildAdmission.Storage.Memory
import BuildAdmission.Storage.RecordFile

namespace BuildAdmission

/-- A place that keeps checkpoints and unit records. Any call may fail. -/
class Storage (σ : Type) where
  latest? : UnitId → StateM σ (Except Refusal (Option Checkpoint))
  save : Checkpoint → StateM σ (Except Refusal Unit)
  deleteAll : UnitId → StateM σ (Except Refusal Unit)
  load : StateM σ (Except Refusal (List WorkUnit))
  flush : List WorkUnit → StateM σ (Except Refusal Unit)

/-- The places that come with the library: memory, or files. -/
inductive Vault where
  | memory (checkpoints : CheckpointMemory) (registry : RegistryMemory)
  | files (tree : FileTree) (logs : LogDirectory) (records : RecordFile)

namespace Vault

def latest? (id : UnitId) : StateM Vault (Except Refusal (Option Checkpoint)) := fun
  | v@(.memory checkpoints _) => (.ok (checkpoints.latest? id), v)
  | v@(.files tree logs _) => (logs.latest? tree id, v)

def save (c : Checkpoint) : StateM Vault (Except Refusal Unit) := fun
  | .memory checkpoints registry =>
    let (result, checkpoints) := checkpoints.save c
    (result, .memory checkpoints registry)
  | .files tree logs records =>
    match logs.save tree c with
    | .ok tree => (.ok (), .files tree logs records)
    | .error refusal => (.error refusal, .files tree logs records)

def deleteAll (id : UnitId) : StateM Vault (Except Refusal Unit) := fun
  | .memory checkpoints registry => (.ok (), .memory (checkpoints.deleteAll id) registry)
  | .files tree logs records =>
    match logs.deleteAll tree id with
    | .ok tree => (.ok (), .files tree logs records)
    | .error refusal => (.error refusal, .files tree logs records)

def load : StateM Vault (Except Refusal (List WorkUnit)) := fun
  | v@(.memory _ registry) => (.ok registry.units, v)
  | v@(.files tree _ records) => (records.load tree, v)

def flush (units : List WorkUnit) : StateM Vault (Except Refusal Unit) := fun
  | .memory checkpoints registry => (.ok (), .memory checkpoints (registry.flush units))
  | .files tree logs records =>
    let (result, tree) := records.flush tree units
    (result, .files tree logs records)

instance : Storage Vault := ⟨latest?, save, deleteAll, load, flush⟩

end Vault

inductive StorageCall where
  | save
  | loadLatest
  | deleteAll
  | load
  | flush
  deriving DecidableEq, Repr

def StorageCall.name : StorageCall → String
  | save => "save"
  | loadLatest => "load_latest"
  | deleteAll => "delete_all"
  | load => "load"
  | flush => "flush"

/-- A storage of which some calls fail and then change nothing. -/
structure Faulty (σ : Type) where
  inner : σ
  failing : List StorageCall

namespace Faulty

variable {σ α : Type}

def call (name : StorageCall) (act : StateM σ (Except Refusal α)) :
    StateM (Faulty σ) (Except Refusal α) := fun s =>
  if name ∈ s.failing then (.error (.storage ("injected " ++ name.name)), s)
  else
    let (result, inner) := act s.inner
    (result, { s with inner })

instance [Storage σ] : Storage (Faulty σ) where
  latest? id := call .loadLatest (Storage.latest? id)
  save c := call .save (Storage.save c)
  deleteAll id := call .deleteAll (Storage.deleteAll id)
  load := call .load Storage.load
  flush units := call .flush (Storage.flush units)

end Faulty

end BuildAdmission
