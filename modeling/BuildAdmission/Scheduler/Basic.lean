import BuildAdmission.Audit.Basic
import BuildAdmission.Graph.Split
import BuildAdmission.Limits
import BuildAdmission.Queue.Basic
import BuildAdmission.Storage.Basic

namespace BuildAdmission

/-- A unit that holds a slot. The last sign of life is a moment of the session's clock. -/
structure Running where
  task : LaunchTask
  ticket : Nat
  lastProgress : Nat
  deriving DecidableEq

/-- The state from which launches are decided. Every admission gets the next ticket. The counter of
64 bits that holds it is taken not to wrap. -/
structure Scheduler where
  limits : Limits
  graph : Graph
  budget : Budget
  queue : AdmissionQueue
  running : IdMap Running
  nextTicket : Nat
  deriving DecidableEq

inductive Gate where
  | waiting (unmet : List UnitId)
  | tooLarge (decision : BudgetDecision) (reason : String)
  | passed
  deriving DecidableEq

namespace Scheduler

def new (limits : Limits) (budget : Budget) : Except Refusal Scheduler := do
  limits.check
  .ok ⟨limits, .empty, budget, .empty, ∅, 1⟩

def setStatus (s : Scheduler) (id : UnitId) (status : Status) : Scheduler :=
  { s with graph := s.graph.setStatus id status }

def isFull (s : Scheduler) : Bool := s.limits.concurrency.toNat ≤ s.running.size

/-- Dependencies speak before the budget. -/
def gate (s : Scheduler) (u : WorkUnit) (task : LaunchTask) : Gate :=
  match s.graph.unmetOf u with
  | [] =>
    let decision := s.budget.check u.declaredSize task.estimatedCost
    decision.refusal?.elim .passed (.tooLarge decision)
  | unmet => .waiting unmet

/-- Whether the ticket is that of the unit's present admission. -/
def isCurrent (s : Scheduler) (id : UnitId) (ticket : Nat) : Bool :=
  (s.running.find? id).any (·.ticket = ticket)

def start (s : Scheduler) (id : UnitId) (task : LaunchTask) (now : Nat) : Scheduler :=
  { s.setStatus id .running with
    running := s.running.insert id ⟨task, s.nextTicket, now⟩
    nextTicket := s.nextTicket + 1 }

def release (s : Scheduler) (id : UnitId) (status : Status) : Scheduler :=
  { s.setStatus id status with running := s.running.erase id }

def enqueue (s : Scheduler) (id : UnitId) (task : LaunchTask) (priority : Int32) : Scheduler :=
  { s.setStatus id .queued with queue := (s.queue.enqueue id task priority).2 }

end Scheduler

/-- A scheduler at work, with the storage that it uses, the audit trail that it leaves, its clock in
nanoseconds and the date. -/
structure Session (σ : Type) where
  scheduler : Scheduler
  storage : σ
  trail : List AuditEntry
  clock : Nat
  date : Timestamp

/-- A step of a session. A refusal does not undo what the step has done so far. -/
abbrev Op (σ α : Type) := ExceptT Refusal (StateM (Session σ)) α

namespace Op

variable {σ α : Type}

def ofStorage (call : StateM σ (Except Refusal α)) : Op σ α := ExceptT.mk fun s =>
  let (result, storage) := call s.storage
  (result, { s with storage })

def scheduler : Op σ Scheduler := return (← get).scheduler

def change (f : Scheduler → Scheduler) : Op σ Unit :=
  modify fun s => { s with scheduler := f s.scheduler }

/-- Changes the graph unless the change is refused. -/
def edit (f : Graph → Except Refusal (α × Graph)) : Op σ α := do
  let (a, graph) ← f (← scheduler).graph
  change fun s => { s with graph }
  return a

def record (id : UnitId) (action : AuditAction) (detail : Option String) : Op σ Unit :=
  modify fun s => { s with trail := s.trail ++ [⟨id, action, detail⟩] }

variable [Storage σ]

/-- Writes the records of all units. That they cannot be written stops nothing. -/
def persist : Op σ Unit := do
  let records := (← scheduler).graph.records
  try ofStorage (Storage.flush records) catch _ => pure ()

end Op

/-- A unit that was given a slot: the unit as it then was, what it is to do, and what it goes on
from. Of a unit's admissions only the one with the latest ticket counts. -/
structure Admission where
  unit : WorkUnit
  task : LaunchTask
  resume : Option ResumeContext
  ticket : Nat
  deriving DecidableEq

inductive LaunchOutcome where
  | admitted (admission : Admission)
  | queued (position : Nat)
  | blocked (unmet : List UnitId)
  | splitRequired (decision : BudgetDecision)
  deriving DecidableEq

structure TransitionReport where
  unitId : UnitId
  status : Status
  promoted : List Admission
  deriving DecidableEq

end BuildAdmission
