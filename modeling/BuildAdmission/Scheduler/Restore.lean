import BuildAdmission.Scheduler.Basic

namespace BuildAdmission

namespace Scheduler

variable {σ : Type} [Storage σ]

/-- No run outlives a session. A unit that was waiting or running goes on from its checkpoint, or
starts again if it has none. -/
def recover (u : WorkUnit) : ExceptT Refusal (StateM σ) WorkUnit := do
  if u.archived || !u.status.isActive then return u
  let latest ← ExceptT.mk (Storage.latest? u.id)
  return { u with status := if 0 < Checkpoint.iterationOf latest then .checkpointed else .pending }

/-- A scheduler for the units that the storage has on record. -/
def restore (limits : Limits) (budget : Budget) : ExceptT Refusal (StateM σ) Scheduler := do
  let units ← ExceptT.mk Storage.load
  let graph ← Graph.ofRecords (← units.mapM recover)
  let s ← new limits budget
  try ExceptT.mk (Storage.flush graph.records) catch _ => pure ()
  return { s with graph }

end Scheduler

end BuildAdmission
