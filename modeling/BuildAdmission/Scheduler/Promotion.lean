import BuildAdmission.Scheduler.Basic

namespace BuildAdmission

namespace Op

variable {σ : Type} [Storage σ]

/-- Gives the unit a slot. It goes on from its latest checkpoint. -/
def giveSlot (id : UnitId) (task : LaunchTask) : Op σ Admission := do
  let latest ← ofStorage (Storage.latest? id)
  let s ← get
  let u ← s.scheduler.graph.get id
  change (·.start id task s.clock)
  return ⟨{ u with status := .running }, task, latest.map (·.resume), s.scheduler.nextTicket⟩

def waitingOn (unmet : List UnitId) : String := "waiting on " ++ describeIds unmet

def demote (id : UnitId) (action : AuditAction) (detail : String) : Op σ Unit := do
  change (·.setStatus id .pending)
  record id action (some detail)

/-- Fills free slots from the queue, of which it takes at most `count` launches. A launch that may
not run any more is dropped. If a unit cannot be given its slot its launch is put back, and those
after it stay. -/
def promoteUpTo : Nat → Op σ (List Admission)
  | 0 => return []
  | count + 1 => do
    let s ← scheduler
    if s.isFull then return []
    let some (launch, queue) := s.queue.pop? | return []
    change fun s => { s with queue }
    let some u := (s.graph.unit? launch.unitId).filter (·.status = .queued) | promoteUpTo count
    match s.gate u launch.task with
    | .waiting unmet =>
      demote launch.unitId .block (waitingOn unmet)
      promoteUpTo count
    | .tooLarge _ reason =>
      demote launch.unitId .splitRequired reason
      promoteUpTo count
    | .passed =>
      let some admission ← try some <$> giveSlot launch.unitId launch.task catch _ => pure none
        | change fun s => { s with queue := s.queue.requeue launch }
          return []
      record launch.unitId .promote none
      return admission :: (← promoteUpTo count)

def promote : Op σ (List Admission) := do promoteUpTo (← scheduler).queue.size

end Op

end BuildAdmission
