import BuildAdmission.Scheduler.Basic

namespace BuildAdmission

namespace Op

variable {σ α : Type} [Storage σ]

/-- Takes in a unit, which must be pending or complete. -/
def addUnit (u : WorkUnit) : Op σ Unit := do
  if u.status ≠ .pending ∧ u.status ≠ .complete then
    throw (.invalidTransition u.id u.status .pending)
  edit fun g => (g.addUnit u).map ((), ·)
  record u.id .register none
  persist

def addEdge (source target : UnitId) : Op σ Unit := do
  edit fun g => (g.addEdge source target).map ((), ·)
  persist

/-- Notes the size that was measured, and tells its tier. -/
def updateSize (id : UnitId) (size : UInt64) : Op σ Tier := do
  edit fun g => (g.get id).map fun _ => ((), g.update id fun u => { u with declaredSize := size })
  persist
  return (← scheduler).budget.classify size

def setThresholds (thresholds : Thresholds) : Op σ Unit := do
  match (← scheduler).budget.withThresholds thresholds with
  | .ok budget => change fun s => { s with budget }
  | .error fault => throw (.invalidBudget fault)

/-- Makes a failed unit pending again, with all its tries. -/
def resetFailed (id : UnitId) : Op σ Unit := do
  let u ← (← scheduler).graph.get id
  if u.status ≠ .failed then throw (.invalidTransition id u.status .pending)
  change fun s =>
    { s with graph := s.graph.update id fun u => { u with status := .pending, retryCount := 0 } }
  record id .reset none
  persist

/-- An edit that takes a unit out of the graph. A unit that runs cannot be taken out. One that waits
is withdrawn from the queue, and goes back to its place if the edit is refused. -/
def retire (id : UnitId) (f : Graph → Except Refusal (α × Graph)) : Op σ α := do
  let s ← scheduler
  let u ← s.graph.get id
  if u.status = .running then throw (.unitInUse id .running)
  match s.queue.remove? id with
  | none => edit f
  | some (launch, queue) =>
    change fun s => { s.setStatus id .pending with queue }
    try edit f
    catch refusal =>
      change fun s => { s.setStatus id .queued with queue := s.queue.requeue launch }
      throw refusal

/-- Takes a unit out. Its name stays taken. -/
def archive (id : UnitId) : Op σ WorkUnit := do
  let u ← retire id (·.archive id)
  record id .archive none
  persist
  return u

def split (plan : SplitPlan) : Op σ (List UnitId) := do
  let ids ← retire plan.whole (·.split plan)
  record plan.whole .split (some ("replaced by " ++ describeIds ids))
  for id in ids do record id .register (some ("split from " ++ plan.whole))
  persist
  return ids

def flush : Op σ Unit := do ofStorage (Storage.flush (← scheduler).graph.records)

end Op

end BuildAdmission
