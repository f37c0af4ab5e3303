import BuildAdmission.Dispatch.Basic
import BuildAdmission.Proofs.Dispatch
import BuildAdmission.Proofs.Session.Outage

namespace BuildAdmission

open Session (Opened Spent givenBy Numbered)

/-- The unit that was admitted, and its ticket. -/
def Admission.key (a : Admission) : UnitId × Nat := (a.unit.id, a.ticket)

/-- The admission whose outcome it is. -/
def UnitEvent.key? : UnitEvent → Option (UnitId × Nat)
  | .outcome id ticket _ => some (id, ticket)
  | .progress _ => none

namespace Dispatcher

variable {σ : Type} [Storage σ] {s : Session σ} {d d' : Dispatcher σ} {as : List Admission}
  {id : UnitId} {ticket : Nat} {c : Command}

/-! ### What the dispatcher does to the session -/

theorem expireIdle_follow (d : Dispatcher σ) :
    (expireIdle.run d).2 = d.follow (.expireIdle d.session.clock) := by
  rw [expireIdle, Op.run_bind_ok (run_get d), Op.run_bind, run_ofSession, follow, Session.call,
    Command.perform, Op.run_map]
  cases ((Op.expireIdle d.session.clock).run d.session).1 with
  | error refusal => exact congrArg (Dispatcher.mk _ · _) (List.append_nil _).symm
  | ok reports => rfl

/-- A launch is one call, or two if the unit is split. -/
theorem launch_follow (analyzer : Option SplitAnalyzer) (id : UnitId) (task : LaunchTask)
    (priority : Int32) (d : Dispatcher σ) :
    ∃ plan? : Option SplitPlan, ((launch analyzer id task priority).run d).2 =
      (plan?.map Command.split).elim (d.follow (.requestLaunch id task priority))
        (d.follow (.requestLaunch id task priority)).follow := by
  have unchanged (t : Session σ) : { d with session := t } =
      { d with session := t, started := d.started ++ [] } := by rw [List.append_nil]
  rw [launch, Op.run_bind, run_ofSession, follow, Session.call, Command.perform, Op.run_map]
  rcases ((Op.requestLaunch id task priority).run d.session) with ⟨refusal | outcome, t⟩
  · exact ⟨none, unchanged t⟩
  · cases outcome with
    | admitted a => exact ⟨none, rfl⟩
    | queued position => exact ⟨none, unchanged t⟩
    | blocked unmet => exact ⟨none, unchanged t⟩
    | splitRequired decision =>
        cases analyzer with
        | none => exact ⟨none, unchanged t⟩
        | some analyze =>
            simp only [Op.run_bind, run_get, Op.run_liftM]
            cases t.scheduler.graph.get id with
            | error refusal => exact ⟨none, unchanged t⟩
            | ok u =>
                dsimp only
                cases analyze u decision with
                | error refusal => exact ⟨none, unchanged t⟩
                | ok plan =>
                    refine ⟨some plan, ?_⟩
                    show _ = follow ⟨t, d.started ++ [], d.events⟩ (.split plan)
                    rw [follow_of_not_given (given_of_isEdit rfl t), Session.call, Command.perform,
                      Op.run_map]
                    dsimp only
                    rw [run_ofSession, ← unchanged]
                    cases ((Op.split plan).run t).1 <;> rfl

/-! ### What happens around a dispatcher -/

/-- Time passes, a unit is edited, a launch is asked for, an executor ends or shows a sign of life, the
oldest event is handled, or what is idle expires. A split that an analyzer takes long to plan is an
edit. -/
inductive Move where
  | wait (clock : Nat) (date : Timestamp)
  | edit (c : Command)
  | launch (analyzer : Option SplitAnalyzer) (id : UnitId) (task : LaunchTask) (priority : Int32)
  | finish (a : Admission) (outcome : Outcome)
  | ping (id : UnitId)
  | handle
  | expire

/-- Nothing that may hand out a slot passes the dispatcher by, and an executor ends once. -/
def Move.Allowed (d : Dispatcher σ) : Move → Prop
  | edit c => c.isEdit = true
  | finish a _ => a ∈ d.started
  | _ => True

def make (d : Dispatcher σ) : Move → Dispatcher σ
  | .wait clock date => { d with session := { d.session with clock, date } }
  | .edit c => { d with session := (d.session.call c).after }
  | .launch analyzer id task priority => ((launch analyzer id task priority).run d).2
  | .finish a outcome => d.finish a outcome
  | .ping id => { d with events := d.events ++ [.progress id] }
  | .handle =>
    match d.events with
    | [] => d
    | e :: rest => ((handle e).run { d with events := rest }).2
  | .expire => (expireIdle.run d).2

/-- A move, with the dispatcher before it. -/
structure Moment (σ : Type) where
  before : Dispatcher σ
  move : Move

namespace Moment

def after (m : Moment σ) : Dispatcher σ := m.before.make m.move

/-- The admissions for which an executor is started. -/
def handed (m : Moment σ) : List Admission := m.after.started.drop m.before.started.length

/-- During the move a checkpoint could not be read or saved. -/
def Fails (m : Moment σ) : Prop :=
  ({ m.before with session := m.before.session.noted [.loadLatest, .save] }.make
    m.move).session.storage.failed = true

end Moment

/-- Moves, one after the other. -/
inductive Run (d : Dispatcher σ) : List (Moment σ) → Dispatcher σ → Prop
  | nil : Run d [] d
  | move {moments d'} (rest : Run d moments d') (m : Move) (allowed : m.Allowed d') :
      Run d (moments ++ [⟨d', m⟩]) (d'.make m)

/-- The admissions for which executors were started, in order. -/
def handedIn (moments : List (Moment σ)) : List Admission := moments.flatMap Moment.handed

/-- The admissions whose executor has not ended, or whose outcome has not been handled. -/
def pending (d : Dispatcher σ) : List (UnitId × Nat) :=
  d.started.map Admission.key ++ d.events.filterMap UnitEvent.key?

/-- Every admission was handed to an executor. It is pending, or else it is over. -/
structure Delivered (s : Session σ) (as : List Admission) (d : Dispatcher σ) : Prop where
  given : ∃ calls, Session.Run s calls d.session ∧ givenBy calls = as
  ledger : ∃ reported, (as.map Admission.key).Perm (d.pending ++ reported) ∧
    ∀ k ∈ reported, Spent k.1 k.2 d.session

namespace Delivered

theorem kept (h : Delivered s as d) (opened : Opened s) : d.session.scheduler.Kept := by
  obtain ⟨calls, run, _⟩ := h.given
  exact run.kept opened

theorem numbered (h : Delivered s as d) (opened : Opened s) : Numbered s as d.session := by
  obtain ⟨calls, run, rfl⟩ := h.given
  exact run.numbered opened

theorem nodup_tickets (h : Delivered s as d) (opened : Opened s) :
    ((as.map Admission.key).map Prod.snd).Nodup := by
  rw [List.map_map]
  exact (h.numbered opened).tickets ▸ List.nodup_range'

theorem nodup_pending (h : Delivered s as d) (opened : Opened s) :
    (d.pending.map Prod.snd).Nodup := by
  obtain ⟨reported, perm, _⟩ := h.ledger
  have nodup := (perm.map Prod.snd).nodup_iff.1 (h.nodup_tickets opened)
  rw [List.map_append] at nodup
  exact nodup.of_append_left

theorem issued (h : Delivered s as d) (opened : Opened s) (pending : (id, ticket) ∈ d.pending) :
    ticket < d.session.scheduler.nextTicket := by
  obtain ⟨reported, perm, _⟩ := h.ledger
  have key := perm.mem_iff.2 (List.mem_append_left reported pending)
  obtain ⟨a, ha, same⟩ := List.mem_map.1 key
  cases same
  have numbered := h.numbered opened
  have range := List.mem_map_of_mem (f := (·.ticket)) ha
  rw [numbered.tickets, List.mem_range'_1] at range
  rw [numbered.next]
  exact range.2

/-! ### What every move keeps -/

theorem follow (h : Delivered s as d) (c : Command) :
    Delivered s (as ++ (d.session.call c).given) (d.follow c) := by
  obtain ⟨calls, run, rfl⟩ := h.given
  obtain ⟨reported, perm, spent⟩ := h.ledger
  obtain ⟨es, trace⟩ := Session.call_trace d.session c
  refine ⟨⟨_, run.call c, Session.givenBy_snoc ..⟩, reported, ?_, fun k hk => trace.spent (spent k hk)⟩
  have later := perm.append_right ((d.session.call c).given.map Admission.key)
  simp only [pending, Dispatcher.follow, List.map_append, List.append_assoc] at later ⊢
  refine later.trans (List.Perm.append_left _ ?_)
  rw [← List.append_assoc]
  exact List.perm_append_comm

/-- What does not touch the scheduler may move what is pending. -/
theorem shift (h : Delivered s as d) (session : d'.session = d.session)
    (same : d'.pending.Perm d.pending) : Delivered s as d' := by
  obtain ⟨reported, perm, spent⟩ := h.ledger
  exact ⟨session ▸ h.given, reported, perm.trans (same.symm.append_right reported), session ▸ spent⟩

theorem wait (h : Delivered s as d) (clock : Nat) (date : Timestamp) :
    Delivered s as { d with session := { d.session with clock, date } } := by
  obtain ⟨calls, run, same⟩ := h.given
  obtain ⟨reported, perm, spent⟩ := h.ledger
  exact ⟨⟨calls, run.wait clock date, same⟩, reported, perm,
    fun k hk => ⟨(spent k hk).issued, (spent k hk).ended⟩⟩

/-- The tickets of those that were started are distinct, so that the one that ended is taken out. -/
theorem started_perm (h : Delivered s as d) (opened : Opened s) {a : Admission}
    (started : a ∈ d.started) (outcome : Outcome) :
    d.started.Perm (a :: (d.finish a outcome).started) := by
  obtain ⟨b, before, after, _, same, split, erased⟩ :=
    List.exists_of_eraseP (p := (·.ticket = a.ticket)) started (decide_eq_true rfl)
  have nodup : (d.started.map (·.ticket)).Nodup := by
    have nodup := h.nodup_pending opened
    rw [pending, List.map_append, List.map_map] at nodup
    exact nodup.of_append_left
  have mem : b ∈ d.started := split ▸ List.mem_append_right before List.mem_cons_self
  cases List.inj_on_of_nodup_map nodup mem started (of_decide_eq_true same)
  rw [Dispatcher.finish, erased, split]
  exact List.perm_middle

theorem finish (h : Delivered s as d) (opened : Opened s) {a : Admission} (started : a ∈ d.started)
    (outcome : Outcome) : Delivered s as (d.finish a outcome) := by
  have shrunk := ((h.started_perm opened started outcome).map Admission.key).append_right
    (d.events.filterMap UnitEvent.key?)
  refine h.shift rfl (.trans ?_ shrunk.symm)
  rw [pending, Dispatcher.finish, List.filterMap_append, ← List.append_assoc]
  exact List.perm_append_singleton a.key _

theorem ping (h : Delivered s as d) (id : UnitId) :
    Delivered s as { d with events := d.events ++ [.progress id] } := by
  refine h.shift rfl (List.Perm.of_eq ?_)
  simp [pending, List.filterMap_cons, UnitEvent.key?]

/-- The outcome of a run that is over is no longer waited for. -/
theorem settle (h : Delivered s as d) {outcome : Outcome} {rest : List UnitEvent}
    (oldest : d.events = .outcome id ticket outcome :: rest) (spent : Spent id ticket d.session) :
    Delivered s as { d with events := rest } := by
  obtain ⟨reported, perm, all⟩ := h.ledger
  refine ⟨h.given, (id, ticket) :: reported, perm.trans ?_, List.forall_mem_cons.2 ⟨spent, all⟩⟩
  rw [pending, pending, oldest]
  simp only [List.filterMap_cons, UnitEvent.key?, List.append_assoc]
  exact List.perm_middle.symm.append_left _

/-- An outcome is applied if its run goes on. If not, the run is over. -/
theorem spent (h : Delivered s as d) (opened : Opened s) (pending : (id, ticket) ∈ d.pending)
    {outcome : Outcome}
    (answers : (d.session.call (.applyOutcome id ticket outcome)).fails [.loadLatest, .save] = false) :
    Spent id ticket (d.session.call (.applyOutcome id ticket outcome)).after := by
  have kept := h.kept opened
  cases current : d.session.scheduler.isCurrent id ticket with
  | true =>
      have applies := Session.outcome_applies (List.Subset.refl _) kept current outcome answers
      exact (Session.call_applies kept applies).2
  | false =>
      obtain ⟨es, trace⟩ := Session.call_trace d.session (.applyOutcome id ticket outcome)
      refine trace.spent ⟨h.issued opened pending, ?_⟩
      rintro _ r slot rfl same
      rw [Scheduler.isCurrent, slot] at current
      exact absurd same (of_decide_eq_false current)

theorem handle (h : Delivered s as d) (opened : Opened s) {e : UnitEvent} {rest : List UnitEvent}
    (oldest : d.events = e :: rest)
    (answers : (d.session.call e.command).fails [.loadLatest, .save] = false) :
    Delivered s (as ++ (d.session.call e.command).given)
      ({ d with events := rest }.follow e.command) := by
  have followed := h.follow e.command
  cases e with
  | progress id =>
      refine followed.shift rfl (List.Perm.of_eq ?_)
      rw [pending, pending, Dispatcher.follow, Dispatcher.follow, oldest]
      rfl
  | outcome id ticket outcome =>
      have pending : (id, ticket) ∈ d.pending :=
        List.mem_append_right _ (List.mem_filterMap.2 ⟨_, oldest ▸ List.mem_cons_self, rfl⟩)
      exact followed.settle oldest (h.spent opened pending answers)

end Delivered

/-! ### Runs -/

theorem Delivered.handed {as' : List Admission} (h : Delivered s (as ++ as') d')
    (grown : d'.started = d.started ++ as') :
    Delivered s (as ++ d'.started.drop d.started.length) d' := by
  rwa [grown, List.drop_left]

theorem Delivered.unhanded (h : Delivered s as d')
    (shrunk : d'.started.length ≤ d.started.length) :
    Delivered s (as ++ d'.started.drop d.started.length) d' := by
  rwa [List.drop_eq_nil_of_le shrunk, List.append_nil]

theorem Delivered.make (h : Delivered s as d) (opened : Opened s) {m : Move} (allowed : m.Allowed d)
    (answers : ¬ (⟨d, m⟩ : Moment σ).Fails) :
    Delivered s (as ++ (⟨d, m⟩ : Moment σ).handed) (d.make m) := by
  rw [Moment.handed, Moment.after]
  cases m with
  | wait clock date => exact (h.wait clock date).unhanded le_rfl
  | edit c =>
      have followed := h.follow c
      have silent := given_of_isEdit allowed d.session
      rw [silent, List.append_nil, follow_of_not_given silent] at followed
      exact followed.unhanded le_rfl
  | launch analyzer id task priority =>
      obtain ⟨plan?, same⟩ := launch_follow analyzer id task priority d
      have followed := h.follow (.requestLaunch id task priority)
      rw [Dispatcher.make, same]
      cases plan? with
      | none => exact followed.handed rfl
      | some plan =>
          have silent := given_of_isEdit (c := .split plan) rfl
            (d.session.call (.requestLaunch id task priority)).after
          have split := followed.follow (.split plan)
          refine (List.append_assoc .. ▸ split).handed ?_
          exact List.append_assoc ..
  | finish a outcome =>
      exact (h.finish opened allowed outcome).unhanded (List.length_eraseP_le ..)
  | ping id => exact (h.ping id).unhanded le_rfl
  | handle =>
      cases oldest : d.events with
      | nil =>
          rw [Dispatcher.make, oldest]
          exact h.unhanded le_rfl
      | cons e rest =>
          rw [Moment.Fails, Dispatcher.make, oldest] at answers
          dsimp only at answers
          rw [handle_follow] at answers
          rw [Dispatcher.make, oldest]
          dsimp only
          rw [handle_follow]
          exact (h.handle opened oldest (Bool.eq_false_iff.2 answers)).handed rfl
  | expire =>
      rw [Dispatcher.make, expireIdle_follow]
      exact (h.follow _).handed rfl

theorem Run.delivered {moments : List (Moment σ)} (run : Run (new s) moments d) (opened : Opened s)
    (answers : ∀ m ∈ moments, ¬ m.Fails) : Delivered s (handedIn moments) d := by
  induction run with
  | nil => exact ⟨⟨[], .nil, rfl⟩, [], .refl _, by simp⟩
  | move rest m allowed ih =>
      obtain ⟨before, last⟩ := List.forall_mem_append.1 answers
      rw [handedIn, List.flatMap_append, List.flatMap_singleton]
      exact (ih before).make opened allowed (last _ List.mem_cons_self)

theorem Delivered.expected (h : Delivered s as d) (opened : Opened s) {r : Running}
    (slot : d.session.scheduler.running.find? id = some r) : d.pending.count (id, r.ticket) = 1 := by
  obtain ⟨calls, run, rfl⟩ := h.given
  obtain ⟨reported, perm, spent⟩ := h.ledger
  obtain ⟨a, last, same⟩ := run.credited opened id r slot
  have key : (id, r.ticket) ∈ (givenBy calls).map Admission.key := by
    have named := List.find?_some last
    refine List.mem_map.2 ⟨a, List.mem_reverse.1 (List.mem_of_find?_eq_some last), ?_⟩
    rw [Admission.key, of_decide_eq_true named, same]
  have unreported : (id, r.ticket) ∉ reported := fun reports => (spent _ reports).ended id r slot rfl rfl
  have once := List.count_eq_one_of_mem (h.nodup_tickets opened).of_map key
  rwa [perm.count_eq, List.count_append, List.count_eq_zero.2 unreported] at once

/-- Over a storage in which checkpoints can be read and saved, every ticket that was issued went to one
executor. For every unit that runs, either one executor has not ended that was started with its
ticket, or one outcome with its ticket waits to be handled. An outcome of any other run changes
nothing. -/
theorem Run.delivers {moments : List (Moment σ)} (run : Run (new s) moments d) (opened : Opened s)
    (answers : ∀ m ∈ moments, ¬ m.Fails) :
    (handedIn moments).map (·.ticket) = List.range' 1 (d.session.scheduler.nextTicket - 1) ∧
      (∀ id u, d.session.scheduler.graph.unit? id = some u → u.status = .running →
        ∃ r, d.session.scheduler.running.find? id = some r ∧
          (d.started.map Admission.key).count (id, r.ticket) +
            (d.events.filterMap UnitEvent.key?).count (id, r.ticket) = 1) ∧
      ∀ id ticket outcome, d.session.scheduler.isCurrent id ticket = false →
        (handle (.outcome id ticket outcome)).run d = (.ok none, d) := by
  have delivered := run.delivered opened answers
  refine ⟨?_, fun id u live running => ?_, fun id ticket outcome past => ?_⟩
  · have numbered := delivered.numbered opened
    rw [numbered.tickets, numbered.next, opened.nextTicket, Nat.add_sub_cancel_left]
  · obtain ⟨r, slot⟩ := (delivered.kept opened).running_iff.2 ⟨u, live, running⟩
    refine ⟨r, slot, ?_⟩
    rw [← List.count_append]
    exact delivered.expected opened slot
  · have idle : (Op.applyOutcome id ticket outcome).run d.session = (.ok none, d.session) := by
      unfold Op.applyOutcome
      rw [Op.run_bind_ok (Op.run_scheduler _), past]
      rfl
    rw [handle, Op.run_bind, run_ofSession, idle]
    exact congrArg (fun started => (Except.ok none, { d with started })) (List.append_nil _)

/-! ### Runs of given moves -/

def makeAll (d : Dispatcher σ) (ms : List Move) : Dispatcher σ := ms.foldl make d

def momentsOf (d : Dispatcher σ) : List Move → List (Moment σ)
  | [] => []
  | m :: ms => ⟨d, m⟩ :: (d.make m).momentsOf ms

instance (d : Dispatcher σ) (m : Move) : Decidable (m.Allowed d) :=
  match m with
  | .edit c => inferInstanceAs (Decidable (c.isEdit = true))
  | .finish a _ => inferInstanceAs (Decidable (a ∈ d.started))
  | .wait .. | .launch .. | .ping _ | .handle | .expire => .isTrue trivial

theorem Run.append {moments more : List (Moment σ)} {m : Dispatcher σ} (h : Run d moments m)
    (h' : Run m more d') : Run d (moments ++ more) d' := by
  induction h' with
  | nil => rwa [List.append_nil]
  | move rest m allowed ih =>
      rw [← List.append_assoc]
      exact ih.move m allowed

theorem run_makeAll (d : Dispatcher σ) (ms : List Move)
    (allowed : ∀ m ∈ d.momentsOf ms, m.move.Allowed m.before) :
    Run d (d.momentsOf ms) (d.makeAll ms) := by
  induction ms generalizing d with
  | nil => exact .nil
  | cons m ms ih =>
      obtain ⟨first, rest⟩ := List.forall_mem_cons.1 allowed
      exact (Run.nil.move m first).append (ih (d.make m) rest)

/-- A session with one slot, in which a run is idle after a nanosecond. -/
def hasty : Session Vault := Session.fresh.change fun s => { s with limits := ⟨1, 2, ⟨1⟩⟩ }

/-- `lib` gets the only slot and is silent for too long, so that `app` gets it. Then the executor of
`lib` ends, and its outcome is handled. -/
def silentMoves : List Move :=
  [.edit (.addUnit ⟨"lib", .core, .pending, 0, 1000, ∅, 0, false⟩),
    .edit (.addUnit ⟨"app", .core, .pending, 0, 1000, ∅, 0, false⟩),
    .launch none "lib" ⟨"build", 1000⟩ 3, .launch none "app" ⟨"build", 1000⟩ 1, .wait 2 .epoch, .expire,
    .finish ⟨⟨"lib", .core, .running, 3, 1000, ∅, 0, false⟩, ⟨"build", 1000⟩, none, 1⟩ .completed,
    .handle]

def silent : Dispatcher Vault := (new hasty).makeAll silentMoves

theorem delivers_silent :
    (handedIn ((new hasty).momentsOf silentMoves)).map (·.ticket) = [1, 2] ∧
      ∃ r, silent.session.scheduler.running.find? "app" = some r ∧
        (silent.started.map Admission.key).count ("app", r.ticket) +
          (silent.events.filterMap UnitEvent.key?).count ("app", r.ticket) = 1 := by
  have allowed : ((new hasty).momentsOf silentMoves).all
      (fun m => decide (m.move.Allowed m.before)) = true := by decide +kernel
  have answers : ((new hasty).momentsOf silentMoves).all (fun m =>
      !({ m.before with session := m.before.session.noted [.loadLatest, .save] }.make
        m.move).session.storage.failed) = true := by decide +kernel
  have issued : silent.session.scheduler.nextTicket = 3 := by decide +kernel
  have runs : (silent.session.scheduler.graph.unit? "app").map (·.status) = some .running := by
    decide +kernel
  have run : Run (new hasty) _ silent := run_makeAll _ silentMoves fun m hm =>
    of_decide_eq_true (List.all_eq_true.1 allowed m hm)
  obtain ⟨handed, waited, _⟩ := run.delivers (Session.opened_limited rfl) fun m hm failed => by
    have := List.all_eq_true.1 answers m hm
    rw [Moment.Fails] at failed
    simp [failed] at this
  obtain ⟨u, live, status⟩ := Option.map_eq_some_iff.1 runs
  rw [issued] at handed
  exact ⟨handed, waited "app" u live status⟩

end Dispatcher

end BuildAdmission
