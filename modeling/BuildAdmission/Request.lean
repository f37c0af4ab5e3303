import BuildAdmission.Checkpoint.Outcome
import BuildAdmission.Scheduler.Report

namespace BuildAdmission

structure LaunchRequest where
  unitId : UnitId
  task : LaunchTask
  priority : Int32
  deriving DecidableEq

namespace LaunchRequest

def codec : Codec LaunchRequest :=
  (Codec.record (.required "unitId" .text <| .required "task" LaunchTask.codec <|
    .optional "priority" .int32 0 .nil)).iso
    (fun (unit, task, priority, _) => ⟨unit, task, priority⟩)
    (fun r => (r.unitId, r.task, r.priority, ()))

end LaunchRequest

inductive LaunchResponse where
  | admitted (ticket : UInt64) (resumed : Bool)
  | queued (position : UInt64)
  | blocked (unmet : List UnitId)
  | splitRequired (decision : BudgetDecision)
  deriving DecidableEq, Repr

namespace LaunchResponse

def ofOutcome : LaunchOutcome → LaunchResponse
  | .admitted admission => .admitted (.ofNat admission.ticket) admission.resume.isSome
  | .queued position => .queued (.ofNat position)
  | .blocked unmet => .blocked unmet
  | .splitRequired decision => .splitRequired decision

def codec : Codec LaunchResponse :=
  (Codec.tagged "result" Outcome.maxDepth
    (.cons "admitted" (.required "ticket" .uint64 <| .required "resumed" .bool .nil) <|
    .cons "queued" (.required "position" .uint64 .nil) <|
    .cons "blocked" (.required "unmet" (.list .text) .nil) <|
    .cons "split_required" (.required "decision" BudgetDecision.codec .nil) .nil)).iso
    (fun
      | .inl (ticket, resumed, _) => .admitted ticket resumed
      | .inr (.inl (position, _)) => .queued position
      | .inr (.inr (.inl (unmet, _))) => .blocked unmet
      | .inr (.inr (.inr (.inl (decision, _)))) => .splitRequired decision)
    (fun
      | .admitted ticket resumed => .inl (ticket, resumed, ())
      | .queued position => .inr (.inl (position, ()))
      | .blocked unmet => .inr (.inr (.inl (unmet, ())))
      | .splitRequired decision => .inr (.inr (.inr (.inl (decision, ())))))

end LaunchResponse

structure UnitStatusResponse where
  unitId : UnitId
  status : Status
  tier : Tier
  action : BudgetAction
  latestIteration : UInt32
  unmetDependencies : List UnitId
  deriving DecidableEq, Repr

namespace UnitStatusResponse

def ofReport (r : UnitReport) : UnitStatusResponse :=
  ⟨r.unit.id, r.unit.status, r.tier, r.action, r.latestIteration, r.unmetDependencies⟩

def codec : Codec UnitStatusResponse :=
  (Codec.record (.required "unitId" .text <| .required "status" Status.codec <|
    .required "tier" Tier.codec <| .required "action" BudgetAction.codec <|
    .required "latestIteration" .uint32 <|
    .required "unmetDependencies" (.list .text) .nil)).iso
    (fun (unit, status, tier, action, iteration, unmet, _) =>
      ⟨unit, status, tier, action, iteration, unmet⟩)
    (fun r => (r.unitId, r.status, r.tier, r.action, r.latestIteration, r.unmetDependencies, ()))

end UnitStatusResponse

structure Health where
  ok : Bool
  active : UInt64
  queued : UInt64
  concurrencyLimit : UInt64
  deriving DecidableEq, Repr

namespace Health

def ofSummary (s : StatusSummary) : Health :=
  ⟨true, .ofNat s.active.length, .ofNat s.queued.length, s.concurrencyLimit⟩

def codec : Codec Health :=
  (Codec.record (.required "ok" .bool <| .required "active" .uint64 <|
    .required "queued" .uint64 <| .required "concurrency_limit" .uint64 .nil)).iso
    (fun (ok, active, queued, limit, _) => ⟨ok, active, queued, limit⟩)
    (fun h => (h.ok, h.active, h.queued, h.concurrencyLimit, ()))

end Health

end BuildAdmission
