import BuildAdmission.Scheduler.Promotion

namespace BuildAdmission

namespace Op

variable {σ : Type} [Storage σ]

/-- The unit's slot. A unit without one cannot go to the status asked for. -/
def expectRunning (id : UnitId) (target : Status) : Op σ Running := do
  let s ← scheduler
  let u ← s.graph.get id
  let some running := s.running.find? id | throw (.invalidTransition id u.status target)
  if u.status ≠ .running then throw (.invalidTransition id u.status target)
  return running

/-- Ends a change that has freed a slot. -/
def conclude (id : UnitId) (status : Status) : Op σ TransitionReport := do
  let promoted ← promote
  persist
  return ⟨id, (((← scheduler).graph.unit? id).map (·.status)).getD status, promoted⟩

/-- A running unit stops half way. Its checkpoint is saved before anything changes. -/
def suspended (id : UnitId) (data : CheckpointData) : Op σ TransitionReport := do
  let _ ← expectRunning id .checkpointed
  let latest ← ofStorage (Storage.latest? id)
  let iteration := Checkpoint.iterationOf latest + 1
  ofStorage (Storage.save ⟨id, iteration, data, (← get).date⟩)
  change (·.release id .checkpointed)
  record id .suspend (some ("iteration " ++ toString iteration.toNat ++ ", " ++
    toString data.remainingTasks.length ++ " tasks remaining"))
  conclude id .checkpointed

/-- A running unit is done. Its checkpoints go, if they can be deleted. -/
def completed (id : UnitId) : Op σ TransitionReport := do
  let _ ← expectRunning id .complete
  change (·.release id .complete)
  try ofStorage (Storage.deleteAll id) catch _ => pure ()
  record id .complete none
  conclude id .complete

/-- A running unit fails. It waits for another try as long as it has tries left. -/
def failed (id : UnitId) (reason : String) : Op σ TransitionReport := do
  let running ← expectRunning id .failed
  let s ← scheduler
  let u ← s.graph.get id
  if u.retryCount < s.limits.maxRetries then
    let attempt := u.retryCount + 1
    change fun s =>
      let s := s.release id .queued
      let s := { s with graph := s.graph.update id fun u => { u with retryCount := attempt } }
      s.enqueue id running.task u.priority
    record id .retry (some ("attempt " ++ toString attempt.toNat ++ ": " ++ reason))
    conclude id .queued
  else
    change (·.release id .failed)
    record id .fail (some reason)
    conclude id .failed

/-- Ends the run with that ticket. An outcome of an earlier admission has no effect. -/
def applyOutcome (id : UnitId) (ticket : Nat) (outcome : Outcome) :
    Op σ (Option TransitionReport) := do
  if (← scheduler).isCurrent id ticket then
    match outcome with
    | .completed => some <$> completed id
    | .failed reason => some <$> failed id reason
    | .suspended checkpoint => some <$> suspended id checkpoint
  else return none

def recordProgress (id : UnitId) : Op σ Unit := do
  let _ ← expectRunning id .running
  let now := (← get).clock
  change fun s => { s with running := s.running.modify id fun r => { r with lastProgress := now } }

/-- The running units that were silent for longer than the idle timeout. -/
def idleAt (s : Scheduler) (now : Nat) : List UnitId :=
  (s.running.entries.filter fun e => s.limits.idleTimeout.nanos < now - e.2.lastProgress).map (·.1)

def expireIdle (now : Nat) : Op σ (List TransitionReport) := do
  let s ← scheduler
  (idleAt s now).mapM fun id => do
    record id .expire (some ("no progress for " ++ s.limits.idleTimeout.describe))
    failed id "idle timeout"

end Op

end BuildAdmission
