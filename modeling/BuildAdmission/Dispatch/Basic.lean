import BuildAdmission.Scheduler.Edit
import BuildAdmission.Scheduler.Launch
import BuildAdmission.Scheduler.Transition

namespace BuildAdmission

/-- What an executor sends: how its run has ended, or that the unit is alive. -/
inductive UnitEvent where
  | outcome (unitId : UnitId) (ticket : Nat) (outcome : Outcome)
  | progress (unitId : UnitId)
  deriving DecidableEq, Repr

/-- A session whose admissions go to executors. An executor that was started reports once, and its
event waits until it is handled. -/
structure Dispatcher (σ : Type) where
  session : Session σ
  started : List Admission
  events : List UnitEvent

abbrev DispatchOp (σ α : Type) := ExceptT Refusal (StateM (Dispatcher σ)) α

abbrev SplitAnalyzer := WorkUnit → BudgetDecision → Except Refusal SplitPlan

namespace Dispatcher

variable {σ α : Type}

def new (session : Session σ) : Dispatcher σ := ⟨session, [], []⟩

def ofSession (op : Op σ α) : DispatchOp σ α := ExceptT.mk fun d =>
  let (result, session) := op.run d.session
  (result, { d with session })

def start (a : Admission) : DispatchOp σ Unit := modify fun d => { d with started := d.started ++ [a] }

def startAll (as : List Admission) : DispatchOp σ Unit :=
  modify fun d => { d with started := d.started ++ as }

def finish (d : Dispatcher σ) (a : Admission) (outcome : Outcome) : Dispatcher σ :=
  { d with
    started := d.started.eraseP (·.ticket = a.ticket)
    events := d.events ++ [.outcome a.unit.id a.ticket outcome] }

variable [Storage σ]

/-- Asks for a slot for a unit, and hands the unit to an executor if it gets one. A unit that is too
large is split if there is an analyzer; its parts are left for the caller to launch. -/
def launch (analyzer : Option SplitAnalyzer) (id : UnitId) (task : LaunchTask) (priority : Int32) :
    DispatchOp σ LaunchOutcome := do
  let outcome ← ofSession (Op.requestLaunch id task priority)
  match outcome with
  | .admitted a => start a
  | .splitRequired decision =>
    if let some analyze := analyzer then
      let u ← (← get).session.scheduler.graph.get id
      let _ ← ofSession (Op.split (← analyze u decision))
  | .queued _ | .blocked _ => pure ()
  return outcome

/-- Takes note of an event. A sign of life of a unit that does not run has no effect. -/
def handle : UnitEvent → DispatchOp σ (Option TransitionReport)
  | .progress id => do
    try ofSession (Op.recordProgress id) catch _ => pure ()
    return none
  | .outcome id ticket outcome => do
    let report ← ofSession (Op.applyOutcome id ticket outcome)
    startAll (report.elim [] (·.promoted))
    return report

def expireIdle : DispatchOp σ (List TransitionReport) := do
  let now := (← get).session.clock
  let reports ← ofSession (Op.expireIdle now)
  startAll (reports.flatMap (·.promoted))
  return reports

end Dispatcher

end BuildAdmission
