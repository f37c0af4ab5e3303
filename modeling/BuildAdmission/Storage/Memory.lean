import BuildAdmission.Checkpoint.Basic

namespace BuildAdmission

/-- Checkpoints by unit, each log in order of saving. -/
structure CheckpointMemory where
  logs : IdMap (List Checkpoint)
  deriving DecidableEq

namespace CheckpointMemory

def empty : CheckpointMemory := ⟨∅⟩

instance : Inhabited CheckpointMemory := ⟨empty⟩

def history (m : CheckpointMemory) (id : UnitId) : List Checkpoint := (m.logs.find? id).getD []

def latest? (m : CheckpointMemory) (id : UnitId) : Option Checkpoint := (m.history id).getLast?

/-- A log is opened for the unit even if the checkpoint is then refused. -/
def save (m : CheckpointMemory) (c : Checkpoint) : Except Refusal Unit × CheckpointMemory :=
  let log := m.history c.unitId
  match Checkpoint.checkNewer c.unitId c.iteration (Checkpoint.iterationOf log.getLast?) with
  | .ok () => (.ok (), ⟨m.logs.insert c.unitId (log ++ [c])⟩)
  | .error refusal => (.error refusal, ⟨m.logs.insert c.unitId log⟩)

def deleteAll (m : CheckpointMemory) (id : UnitId) : CheckpointMemory := ⟨m.logs.erase id⟩

def unitCount (m : CheckpointMemory) : Nat := m.logs.size

end CheckpointMemory

/-- The records of the last flush and the number of flushes. -/
structure RegistryMemory where
  units : List WorkUnit
  flushes : Nat
  deriving DecidableEq

namespace RegistryMemory

def ofUnits (units : List WorkUnit) : RegistryMemory := ⟨units, 0⟩

instance : Inhabited RegistryMemory := ⟨ofUnits []⟩

def flush (m : RegistryMemory) (units : List WorkUnit) : RegistryMemory := ⟨units, m.flushes + 1⟩

end RegistryMemory

end BuildAdmission
