import BuildAdmission.Scheduler.Promotion

namespace BuildAdmission

namespace Op

variable {σ : Type} [Storage σ]

/-- Asks for a slot for a unit that is pending or checkpointed. Its dependencies come first, then the
budget, then the free slots. -/
def requestLaunch (id : UnitId) (task : LaunchTask) (priority : Int32) : Op σ LaunchOutcome := do
  let u ← (← scheduler).graph.get id
  if u.status ≠ .pending ∧ u.status ≠ .checkpointed then
    throw (.invalidTransition id u.status .queued)
  change fun s => { s with graph := s.graph.update id fun u => { u with priority } }
  let s ← scheduler
  match s.gate u task with
  | .waiting unmet =>
    change (·.setStatus id .pending)
    record id .block (some (waitingOn unmet))
    persist
    return .blocked unmet
  | .tooLarge decision reason =>
    record id .splitRequired (some reason)
    return .splitRequired decision
  | .passed =>
    if s.isFull then
      change (·.enqueue id task priority)
      let position := ((← scheduler).queue.position? id).getD 0
      record id .enqueue (some ("position " ++ toString position))
      persist
      return .queued position
    else
      let admission ← giveSlot id task
      record id .admission none
      persist
      return .admitted admission

end Op

end BuildAdmission
