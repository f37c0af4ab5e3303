import BuildAdmission.Graph.Order
import BuildAdmission.Scheduler.Basic

namespace BuildAdmission

/-- The units by status, and how many may run. Those that wait stand in the order in which they
will be admitted, the others in order of name. -/
structure StatusSummary where
  active : List UnitId
  queued : List UnitId
  completed : List UnitId
  failed : List UnitId
  pending : List UnitId
  checkpointed : List UnitId
  concurrencyLimit : UInt64
  deriving DecidableEq, Repr

namespace StatusSummary

def codec : Codec StatusSummary :=
  (Codec.record (.required "active" (.list .text) <| .required "queued" (.list .text) <|
    .required "completed" (.list .text) <| .required "failed" (.list .text) <|
    .required "pending" (.list .text) <| .required "checkpointed" (.list .text) <|
    .required "concurrency_limit" .uint64 .nil)).iso
    (fun (active, queued, completed, failed, pending, checkpointed, limit, _) =>
      ⟨active, queued, completed, failed, pending, checkpointed, limit⟩)
    (fun s => (s.active, s.queued, s.completed, s.failed, s.pending, s.checkpointed,
      s.concurrencyLimit, ()))

end StatusSummary

structure UnitReport where
  unit : WorkUnit
  tier : Tier
  action : BudgetAction
  emergency : Bool
  latestIteration : UInt32
  unmetDependencies : List UnitId
  deriving DecidableEq

namespace UnitReport

def codec : Codec UnitReport :=
  (Codec.record (.required "unit" WorkUnit.codec <| .required "tier" Tier.codec <|
    .required "action" BudgetAction.codec <| .required "emergency" .bool <|
    .required "latest_iteration" .uint32 <|
    .required "unmet_dependencies" (.list .text) .nil)).iso
    (fun (unit, tier, action, emergency, iteration, unmet, _) =>
      ⟨unit, tier, action, emergency, iteration, unmet⟩)
    (fun r => (r.unit, r.tier, r.action, r.emergency, r.latestIteration, r.unmetDependencies, ()))

end UnitReport

namespace Scheduler

variable (s : Scheduler)

def withStatus (status : Status) : List UnitId :=
  (s.graph.live.values.filter (·.status = status)).map (·.id)

def hasStatus (id : UnitId) (status : Status) : Bool :=
  (s.graph.unit? id).any (·.status = status)

def summary : StatusSummary where
  active := s.running.keys
  queued := (s.queue.entries.map (·.unitId)).filter (s.hasStatus · .queued)
  completed := s.withStatus .complete
  failed := s.withStatus .failed
  pending := s.withStatus .pending
  checkpointed := s.withStatus .checkpointed
  concurrencyLimit := s.limits.concurrency

def activeCount : Nat := s.running.size

/-- The units that a launch would not block, by priority and then by name. -/
def launchable : List UnitId :=
  (WorkUnit.sortByPriority (s.graph.live.values.filter fun u =>
    (u.status = .pending || u.status = .checkpointed) && (s.graph.unmetOf u).isEmpty)).map (·.id)

def recommend (id : UnitId) : Except Refusal BudgetAction :=
  (s.graph.get id).map fun u => (s.budget.classify u.declaredSize).action

end Scheduler

namespace Op

variable {σ : Type} [Storage σ]

def latest? (id : UnitId) : Op σ (Option Checkpoint) := ofStorage (Storage.latest? id)

def resumeContext (id : UnitId) : Op σ (Option ResumeContext) :=
  return (← latest? id).map (·.resume)

def unitReport (id : UnitId) : Op σ UnitReport := do
  let s ← scheduler
  let u ← s.graph.get id
  let tier := s.budget.classify u.declaredSize
  return {
    unit := u
    tier
    action := tier.action
    emergency := s.budget.isEmergency u.declaredSize
    latestIteration := Checkpoint.iterationOf (← latest? id)
    unmetDependencies := s.graph.unmetOf u }

end Op

end BuildAdmission
