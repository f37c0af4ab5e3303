import BuildAdmission.Proofs.Session.Edit
import BuildAdmission.Proofs.Session.Launch
import BuildAdmission.Proofs.Session.Transition
import BuildAdmission.Scheduler.Restore

namespace BuildAdmission

/-- The operations of a session, with their arguments. -/
inductive Command where
  | addUnit (u : WorkUnit)
  | addEdge (source target : UnitId)
  | updateSize (id : UnitId) (size : UInt64)
  | setThresholds (thresholds : Thresholds)
  | requestLaunch (id : UnitId) (task : LaunchTask) (priority : Int32)
  | completed (id : UnitId)
  | failed (id : UnitId) (reason : String)
  | suspended (id : UnitId) (data : CheckpointData)
  | applyOutcome (id : UnitId) (ticket : Nat) (outcome : Outcome)
  | recordProgress (id : UnitId)
  | expireIdle (now : Nat)
  | resetFailed (id : UnitId)
  | archive (id : UnitId)
  | split (plan : SplitPlan)
  | flush

inductive Answer where
  | done
  | sized (tier : Tier)
  | launched (outcome : LaunchOutcome)
  | ended (report : Option TransitionReport)
  | expired (reports : List TransitionReport)
  | archived (u : WorkUnit)
  | parted (ids : List UnitId)
  deriving DecidableEq

def Answer.admissions : Answer → List Admission
  | launched (.admitted a) => [a]
  | ended report => report.elim [] (·.promoted)
  | expired reports => reports.flatMap (·.promoted)
  | _ => []

namespace Command

variable {σ : Type} [Storage σ]

def perform : Command → Op σ Answer
  | addUnit u => (fun _ => .done) <$> Op.addUnit u
  | addEdge source target => (fun _ => .done) <$> Op.addEdge source target
  | updateSize id size => .sized <$> Op.updateSize id size
  | setThresholds thresholds => (fun _ => .done) <$> Op.setThresholds thresholds
  | requestLaunch id task priority => .launched <$> Op.requestLaunch id task priority
  | completed id => (.ended ∘ some) <$> Op.completed id
  | failed id reason => (.ended ∘ some) <$> Op.failed id reason
  | suspended id data => (.ended ∘ some) <$> Op.suspended id data
  | applyOutcome id ticket outcome => .ended <$> Op.applyOutcome id ticket outcome
  | recordProgress id => (fun _ => .done) <$> Op.recordProgress id
  | expireIdle now => .expired <$> Op.expireIdle now
  | resetFailed id => (fun _ => .done) <$> Op.resetFailed id
  | archive id => .archived <$> Op.archive id
  | split plan => .parted <$> Op.split plan
  | flush => (fun _ => .done) <$> Op.flush

def IsRequest : Command → Prop
  | requestLaunch .. => True
  | _ => False

/-- Whether the operation can free a slot. -/
def freesSlots : Command → Bool
  | completed _ | failed .. | suspended .. | applyOutcome .. | expireIdle _ => true
  | _ => false

theorem not_isRequest {c : Command} (h : c.freesSlots = true) : ¬ c.IsRequest := by
  cases c with
  | requestLaunch => cases h
  | _ => exact id

/-- Whether the operation neither asks for a slot nor frees one. -/
def isEdit : Command → Bool
  | requestLaunch .. | completed _ | failed .. | suspended .. | applyOutcome .. | expireIdle _ => false
  | _ => true

/-- The command that ends the unit's run in that way, whichever run it is. -/
def ofOutcome (id : UnitId) : Outcome → Command
  | .completed => completed id
  | .failed reason => failed id reason
  | .suspended data => suspended id data

end Command

/-- A call of an operation, with the session before and after it. -/
structure Call (σ : Type) where
  before : Session σ
  command : Command
  answer : Except Refusal Answer
  after : Session σ

namespace Session

variable {σ : Type} [Storage σ]

def call (s : Session σ) (c : Command) : Call σ :=
  ⟨s, c, (c.perform.run s).1, (c.perform.run s).2⟩

/-- A session that begins: its scheduler is new, or it was restored from the storage. -/
inductive Opened : Session σ → Prop
  | new {thresholds margin hardLimit budget limits scheduler storage trail clock date}
      (valid : Budget.new thresholds margin hardLimit = .ok budget)
      (made : Scheduler.new limits budget = .ok scheduler) :
      Opened ⟨scheduler, storage, trail, clock, date⟩
  | restored {thresholds margin hardLimit budget limits scheduler found storage trail clock date}
      (valid : Budget.new thresholds margin hardLimit = .ok budget)
      (made : (Scheduler.restore limits budget).run found = (.ok scheduler, storage)) :
      Opened ⟨scheduler, storage, trail, clock, date⟩

/-- A session with the standard limits and budget, whose storage in memory is empty. -/
def fresh : Session Vault where
  scheduler :=
    ⟨.standard, .empty, ⟨.standard, Budget.standardMargin, Budget.standardHardLimit⟩, .empty, ∅, 1⟩
  storage := .memory .empty (.ofUnits [])
  trail := []
  clock := 0
  date := .epoch

theorem standard_budget : Budget.new .standard Budget.standardMargin Budget.standardHardLimit =
    .ok fresh.scheduler.budget := by decide

theorem made_limited {limits : Limits} (check : limits.check = .ok ()) :
    Scheduler.new limits fresh.scheduler.budget = .ok { fresh.scheduler with limits } := by
  rw [Scheduler.new, check]
  rfl

theorem opened_fresh : Opened fresh := .new standard_budget (made_limited rfl)

/-- A session that begins with other limits. -/
theorem opened_limited {limits : Limits} (check : limits.check = .ok ()) :
    Opened (fresh.change fun s => { s with limits }) :=
  .new standard_budget (made_limited check)

/-- Calls of operations, one after the other, with time passing between them. -/
inductive Run (s : Session σ) : List (Call σ) → Session σ → Prop
  | nil : Run s [] s
  | wait {calls t} (rest : Run s calls t) (clock : Nat) (date : Timestamp) :
      Run s calls { t with clock, date }
  | call {calls t} (rest : Run s calls t) (c : Command) :
      Run s (calls ++ [t.call c]) (t.call c).after

variable {s t : Session σ} {calls : List (Call σ)} {c : Call σ}

theorem Run.append {m : Session σ} {more : List (Call σ)} (h : Run s calls m) (h' : Run m more t) :
    Run s (calls ++ more) t := by
  induction h' with
  | nil => rwa [List.append_nil]
  | wait rest clock date ih => exact ih.wait clock date
  | call rest c ih =>
      rw [← List.append_assoc]
      exact ih.call c

theorem Run.nil_inv (run : Run s [] t) : ∃ clock date, t = { s with clock, date } := by
  generalize none : ([] : List (Call σ)) = calls at run
  induction run with
  | nil => exact ⟨_, _, rfl⟩
  | wait rest clock date ih =>
      obtain ⟨_, _, rfl⟩ := ih none
      exact ⟨clock, date, rfl⟩
  | call => simp at none

theorem Run.call_inv (run : Run s (calls ++ [c]) t) : ∃ m clock date, Run s calls m ∧
    c = m.call c.command ∧ t = { c.after with clock, date } := by
  generalize all : calls ++ [c] = cs at run
  induction run with
  | nil => simp at all
  | wait rest clock date ih =>
      obtain ⟨m, _, _, before, made, rfl⟩ := ih all
      exact ⟨m, clock, date, before, made, rfl⟩
  | call rest command ih =>
      obtain ⟨rfl, last⟩ := List.append_inj' all rfl
      cases List.singleton_inj.1 last
      exact ⟨_, _, _, rest, rfl, rfl⟩

def callAll (s : Session σ) (cs : List Command) : Session σ := cs.foldl (fun s c => (s.call c).after) s

def callsOf (s : Session σ) : List Command → List (Call σ)
  | [] => []
  | c :: cs => s.call c :: (s.call c).after.callsOf cs

theorem run_callAll (s : Session σ) (cs : List Command) : Run s (s.callsOf cs) (s.callAll cs) := by
  induction cs generalizing s with
  | nil => exact .nil
  | cons c cs ih => exact (Run.nil.call c).append (ih (s.call c).after)

theorem Account.answer {α : Type} {given : α → List Admission} {answer : α → Answer} {op : Op σ α}
    {es : List Event} (h : Account given s (op.run s) es)
    (same : ∀ a, (answer a).admissions = given a) :
    Account Answer.admissions s ((answer <$> op).run s) es := by
  rw [Op.run_map]
  refine ⟨h.trace, ?_, h.settled, h.internal⟩
  intro b hb
  obtain ⟨a, ha, rfl⟩ := Except.map_eq_ok_iff.1 hb
  rw [same, h.given a ha]

theorem Atomic.map {α β : Type} {f : α → β} {op : Op σ α} {es : List Event}
    (h : Atomic s es (op.run s)) : Atomic s es ((f <$> op).run s) := by
  rw [Op.run_map]
  generalize op.run s = ended at h
  cases h with
  | refused => exact .refused
  | done trace => exact .done trace

theorem Retired.map {α β : Type} {f : α → β} {op : Op σ α} {id : UnitId} {e : Event}
    {es : List Event} (h : Retired s id e (op.run s) es) : Retired s id e ((f <$> op).run s) es := by
  rw [Op.run_map]
  generalize op.run s = ended at h
  cases h with
  | refused trace back => exact .refused trace back
  | done trace withdrawn => exact .done trace withdrawn

theorem perform_flush (s : Session σ) : Command.flush.perform.run s =
    ((Storage.flush s.scheduler.graph.records s.storage).1.map fun _ => .done, s.flushed) := by
  rw [Command.perform, Op.run_map, Op.run_flush]

theorem perform_edited {c : Command} (h : c.isEdit = true) (s : Session σ) :
    ∃ es, Edited s (c.perform.run s) es := by
  have settled (e : Event) : Event.Settled [e, .flush] := Event.settled_snoc_flush [e]
  cases c with
  | addUnit u => exact (Op.addUnit_atomic u s).map.edited (settled _) (by simp [Event.isEdit])
  | addEdge source target =>
      exact (Op.addEdge_atomic source target s).map.edited (settled _) (by simp [Event.isEdit])
  | updateSize id size =>
      exact (Op.updateSize_atomic id size s).map.edited (settled _) (by simp [Event.isEdit])
  | setThresholds thresholds =>
      exact (Op.setThresholds_atomic thresholds s).map.edited ⟨.inl rfl, trivial⟩
        (by simp [Event.isEdit])
  | recordProgress id =>
      exact (Op.recordProgress_atomic id s).map.edited ⟨.inl rfl, trivial⟩ (by simp [Event.isEdit])
  | resetFailed id =>
      exact (Op.resetFailed_atomic id s).map.edited (settled _) (by simp [Event.isEdit])
  | archive id => exact (Op.archive_retired id s).imp fun _ retired => retired.map.edited rfl
  | split plan => exact (Op.split_retired plan s).imp fun _ retired => retired.map.edited rfl
  | flush =>
      rw [perform_flush]
      exact ⟨[.flush], Step.flush.trace, Event.settled_snoc_flush [], by simp [Event.isEdit]⟩
  | _ => cases h

theorem admissions_of_isEdit {c : Command} (h : c.isEdit = true) {answer : Answer}
    (answered : (c.perform.run s).1 = .ok answer) : answer.admissions = [] := by
  have hrun : c.perform.run s = (.ok answer, (c.perform.run s).2) := Prod.ext answered rfl
  cases c with
  | requestLaunch | completed | failed | suspended | applyOutcome | expireIdle => cases h
  | _ =>
      obtain ⟨_, _, rfl⟩ := Op.run_map_eq_ok_iff.1 hrun
      rfl

/-- The outcome of the unit's present run ends it, any other outcome does nothing. -/
theorem perform_applyOutcome (id : UnitId) (ticket : Nat) (outcome : Outcome) (s : Session σ) :
    (Command.applyOutcome id ticket outcome).perform.run s =
      if s.scheduler.isCurrent id ticket then (Command.ofOutcome id outcome).perform.run s
      else (.ok (.ended none), s) := by
  unfold Command.perform Op.applyOutcome
  rw [Op.run_map, Op.run_bind_ok (Op.run_scheduler s)]
  cases s.scheduler.isCurrent id ticket with
  | false => rfl
  | true =>
      cases outcome <;>
        simp only [if_true, Command.ofOutcome, Op.run_map, Except.map_map]

theorem perform_account (c : Command) (h : ¬ c.IsRequest) (s : Session σ) :
    ∃ es, Account Answer.admissions s (c.perform.run s) es := by
  by_cases edit : c.isEdit = true
  · exact (perform_edited edit s).imp fun _ edited =>
      edited.account fun _ => admissions_of_isEdit edit
  · cases c with
    | requestLaunch id task priority => exact absurd trivial h
    | completed id => exact (Op.completed_account id s).imp fun _ h => h.answer fun _ => rfl
    | failed id reason => exact (Op.failed_account id reason s).imp fun _ h => h.answer fun _ => rfl
    | suspended id data =>
        exact (Op.suspended_account id data s).imp fun _ h => h.answer fun _ => rfl
    | applyOutcome id ticket outcome =>
        rw [perform_applyOutcome]
        split
        · cases outcome with
          | completed => exact (Op.completed_account id s).imp fun _ h => h.answer fun _ => rfl
          | failed reason =>
              exact (Op.failed_account id reason s).imp fun _ h => h.answer fun _ => rfl
          | suspended data =>
              exact (Op.suspended_account id data s).imp fun _ h => h.answer fun _ => rfl
        · refine ⟨[], .nil, fun answer answered => ?_, trivial, by simp⟩
          cases answered
          rfl
    | expireIdle now => exact (Op.expireIdle_account now s).imp fun _ h => h.answer fun _ => rfl
    | _ => exact absurd rfl edit

theorem perform_requestLaunch (id : UnitId) (task : LaunchTask) (priority : Int32) (s : Session σ) :
    ∃ answer es, Launched s id task priority answer es ∧
      (s.call (.requestLaunch id task priority)).answer = answer.map .launched ∧
      Trace s es (s.call (.requestLaunch id task priority)).after := by
  obtain ⟨es, launched, trace⟩ := Op.requestLaunch_trace id task priority s
  refine ⟨_, es, launched, ?_, ?_⟩
  · rw [call, Command.perform, Op.run_map]
  · rw [call, Command.perform, Op.run_map]
    exact trace

theorem call_trace (s : Session σ) (c : Command) : ∃ es, Trace s es (s.call c).after := by
  by_cases request : c.IsRequest
  · cases c with
    | requestLaunch id task priority =>
        obtain ⟨_, es, _, _, trace⟩ := perform_requestLaunch id task priority s
        exact ⟨es, trace⟩
    | _ => cases request
  · exact (perform_account c request s).imp fun _ h => h.trace

theorem Run.invariant {P : Session σ → Prop} (hstep : ∀ m e n, Step m e n → P m → P n)
    (hwait : ∀ t clock date, P t → P { t with clock, date }) (run : Run s calls t) (hs : P s) :
    P t := by
  induction run with
  | nil => exact hs
  | wait rest clock date ih => exact hwait _ clock date ih
  | @call _ t rest c ih =>
      obtain ⟨es, trace⟩ := call_trace t c
      exact trace.invariant hstep ih

end Session

end BuildAdmission
