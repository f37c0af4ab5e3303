import BuildAdmission.Dispatch.Backlog
import BuildAdmission.Dispatch.Basic
import BuildAdmission.Scheduler.Report

namespace BuildAdmission

/-- A dispatcher among stand-ins. The executors of a unit end as the script says, in order, and then
complete; the analyzer, if there is one, knows the plans in advance. `runs` tells which executors have
run. Nothing that is sent arrives unless the channel is open. -/
structure Rehearsal (σ : Type) where
  dispatcher : Dispatcher σ
  backlog : Backlog
  script : IdMap (List Outcome)
  plans : Option (IdMap SplitPlan)
  runs : List Admission
  isOpen : Bool

namespace Rehearsal

variable {σ α : Type}

def new (session : Session σ) (script : IdMap (List Outcome)) (plans : Option (IdMap SplitPlan)) :
    Rehearsal σ :=
  ⟨.new session, .empty, script, plans, [], true⟩

/-- What is done from inside or outside the event loop. -/
def act (r : Rehearsal σ) (inside : Bool) (op : DispatchOp σ α) : Except Refusal α × Rehearsal σ :=
  let (result, dispatcher) := op.run r.dispatcher
  let started := dispatcher.started.drop r.dispatcher.started.length
  (result, { r with dispatcher, backlog := r.backlog.start inside started })

def analyzer (r : Rehearsal σ) : Option SplitAnalyzer :=
  r.plans.map fun plans u decision =>
    match plans.find? u.id with
    | some plan => .ok plan
    | none =>
      .error (.storage ("injected no plan for " ++ u.id ++ " (" ++ decision.tier.name ++ " tier)"))

def execute (r : Rehearsal σ) (a : Admission) : Outcome × Rehearsal σ :=
  let r := { r with runs := r.runs ++ [a] }
  match r.script.find? a.unit.id with
  | some (outcome :: rest) => (outcome, { r with script := r.script.insert a.unit.id rest })
  | _ => (.completed, r)

def executePending (r : Rehearsal σ) (p : Pending) : Rehearsal σ :=
  let (outcome, r) := r.execute p.admission
  if p.stray then r
  else
    let dispatcher := r.dispatcher.finish p.admission outcome
    { r with dispatcher := if r.isOpen then dispatcher else { dispatcher with events := [] } }

/-- Looks at most `n` times for an executor and runs it, until no executor is left. -/
def runExecutors : Nat → Rehearsal σ → Rehearsal σ
  | 0, r => r
  | n + 1, r =>
    match r.backlog.look with
    | (none, backlog) => { r with backlog }
    | (some p, backlog) => runExecutors n ({ r with backlog }.executePending p)

/-- What the event loop does between two looks at the events. -/
def round (r : Rehearsal σ) : Rehearsal σ := r.runExecutors 61

/-- Gives the executors that were started 64 rounds to run. -/
def settle (r : Rehearsal σ) : Rehearsal σ := Nat.repeat round 64 r

def send (r : Rehearsal σ) (e : UnitEvent) : Bool × Rehearsal σ :=
  if r.isOpen then
    (true, { r with dispatcher := { r.dispatcher with events := r.dispatcher.events ++ [e] } })
  else (false, r)

/-- Closes the channel for good. What has arrived is lost. -/
def close (r : Rehearsal σ) : Rehearsal σ :=
  { r with dispatcher := { r.dispatcher with events := [] }, isOpen := false }

/-- Puts a new dispatcher in the place of the old one, with a channel of its own. -/
def replace (r : Rehearsal σ) (session : Session σ) : Rehearsal σ :=
  { r with
    dispatcher := .new session
    backlog := r.backlog.orphan
    isOpen := true }

variable [Storage σ]

def handleFirst? (r : Rehearsal σ) (inside : Bool) :
    Option (Except Refusal (Option TransitionReport) × Rehearsal σ) :=
  match r.dispatcher.events with
  | [] => none
  | e :: rest =>
    let r := { r with dispatcher := { r.dispatcher with events := rest } }
    some (r.act inside (Dispatcher.handle e))

/-- From outside, at most `count` times runs what was started and handles one event. -/
def pump : Nat → Rehearsal σ → List (Except Refusal (Option TransitionReport)) × Rehearsal σ
  | 0, r => ([], r)
  | count + 1, r =>
    let r := r.settle
    match r.handleFirst? false with
    | none => ([], r)
    | some (result, r) =>
      let (results, r) := pump count r
      (result :: results, r)

def isIdle (r : Rehearsal σ) : Bool := r.dispatcher.session.scheduler.activeCount = 0

def handleEvents : Nat → Rehearsal σ → Rehearsal σ
  | 0, r => r
  | n + 1, r =>
    if r.isIdle then r
    else
      match r.handleFirst? true with
      | none => r
      | some (_, r) => handleEvents n r

/-- The event loop: handles up to 128 events, then gives the executors a round, and so on as long as
a unit runs and an event may come. -/
def drain : Nat → Rehearsal σ → Rehearsal σ
  | 0, r => r
  | fuel + 1, r =>
    let r := r.handleEvents 128
    if r.isIdle || (r.dispatcher.events.isEmpty && r.backlog.size = 0) then r
    else drain fuel r.round

/-- A bound for the number of events. One comes of every executor, and an executor is started
already, or stands for a launch that waits or for another try. -/
def eventBound (r : Rehearsal σ) : Nat :=
  2 * r.dispatcher.events.length + r.backlog.size + r.dispatcher.session.scheduler.queue.size +
    r.script.values.flatten.length + 1

/-- Handles events until no unit runs. Before that, every round runs an executor or makes way for an
event that is handled next. -/
def runUntilIdle (r : Rehearsal σ) : Rehearsal σ := r.drain (2 * r.eventBound)

end Rehearsal

end BuildAdmission
