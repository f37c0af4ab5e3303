import BuildAdmission.Proofs.Session.Admission
import BuildAdmission.Proofs.Session.Conservation
import BuildAdmission.Proofs.Session.Readiness
import BuildAdmission.Proofs.Session.Tickets

namespace BuildAdmission

namespace Graph

variable {g : Graph} {order : List UnitId} {id : UnitId}

/-- Units that are left, each after those of its dependencies that are left as well. -/
inductive Feasible (g : Graph) : List UnitId → Prop
  | nil : Feasible g []
  | snoc {done id u} (front : Feasible g done) (live : g.unit? id = some u)
      (left : u.status ≠ .complete) (once : id ∉ done)
      (met : ∀ d ∈ u.dependencies, g.isComplete d = true ∨ d ∈ done) : Feasible g (done ++ [id])

theorem Feasible.live (h : g.Feasible order) (hid : id ∈ order) : ∃ u, g.unit? id = some u := by
  induction h with
  | nil => cases hid
  | snoc front live left once met ih =>
      rcases List.mem_append.1 hid with hid | hid
      · exact ih hid
      · cases List.mem_singleton.1 hid
        exact ⟨_, live⟩

theorem Greedy.feasible (h : g.Greedy order) : g.Feasible (order.filter (!g.isComplete ·)) := by
  induction order using List.reverseRecOn with
  | nil => exact .nil
  | append_singleton order x ih =>
      obtain ⟨init, u, ready, rfl, _⟩ := Greedy.snoc_iff.1 h
      rw [List.filter_append]
      cases complete : g.isComplete u.id with
      | true => simpa [complete] using ih init
      | false =>
          rw [List.filter_singleton, complete]
          refine .snoc (ih init) ready.live ?_ (fun early => ready.left (List.mem_filter.1 early).1) ?_
          · intro done
            cases complete.symm.trans (isComplete_iff.2 ⟨u, ready.live, done⟩)
          · intro d hd
            cases met : g.isComplete d with
            | true => exact .inl rfl
            | false => exact .inr (List.mem_filter.2 ⟨ready.met d hd, by simp [met]⟩)

end Graph

namespace Scheduler

variable {s t : Scheduler} {id : UnitId} {u : WorkUnit} {task : LaunchTask}
  {priorities : UnitId → Int32} {done : List UnitId}

/-- No unit runs, waits for a slot or has failed. -/
def AtRest (s : Scheduler) : Prop := ∀ id u, s.graph.unit? id = some u →
  u.status = .pending ∨ u.status = .checkpointed ∨ u.status = .complete

theorem AtRest.not_isActive (h : s.AtRest) (live : s.graph.unit? id = some u) :
    u.status.isActive = false := by
  rcases h id u live with status | status | status <;> rw [status] <;> rfl

theorem AtRest.room (h : s.AtRest) (kept : s.Kept) (check : s.limits.check = .ok ()) :
    s.isFull = false := by
  have none : s.running.keys = [] := by
    refine List.eq_nil_iff_forall_not_mem.2 fun id slot => ?_
    obtain ⟨u, live, runs⟩ := kept.running_iff.1 (IdMap.mem_keys_iff.1 slot)
    have rests := h.not_isActive live
    rw [runs] at rests
    cases rests
  rw [isFull_eq_false_iff, ← IdMap.length_keys, none]
  exact concurrency_pos check

theorem AtRest.none_waits (h : s.AtRest) (kept : s.Kept) : s.queue.entries = [] := by
  refine List.eq_nil_iff_forall_not_mem.2 fun launch waits => ?_
  obtain ⟨u, live, queued, _⟩ := kept.taken waits
  have rests := h.not_isActive live
  rw [queued] at rests
  cases rests

/-- The unit is at rest, and nothing keeps it from a slot. -/
structure Ready (s : Scheduler) (id : UnitId) (u : WorkUnit) (task : LaunchTask) : Prop where
  live : s.graph.unit? id = some u
  idle : u.status = .pending ∨ u.status = .checkpointed
  met : s.graph.unmetOf u = []
  fits : (s.budget.check u.declaredSize task.estimatedCost).refusal? = none
  room : s.isFull = false

theorem Ready.noted (h : s.Ready id u task) (priority : Int32) :
    (s.prioritise id priority).graph.unit? id = some { u with priority } :=
  Graph.unit?_update_self h.live

theorem Ready.gate (h : s.Ready id u task) : s.gate u task = .passed :=
  gate_eq_passed_iff.2 ⟨h.met, h.fits⟩

/-- All is as it was, but that the units of the list are complete. -/
structure Advanced (s : Scheduler) (priorities : UnitId → Int32) (done : List UnitId)
    (t : Scheduler) : Prop where
  budget : t.budget = s.budget
  units : ∀ id, t.graph.unit? id = (s.graph.unit? id).map fun u =>
    if id ∈ done then { u with priority := priorities id, status := .complete } else u

theorem Advanced.refl (s : Scheduler) (priorities : UnitId → Int32) :
    s.Advanced priorities [] s := ⟨rfl, by simp⟩

theorem Advanced.atRest (h : s.Advanced priorities done t) (rests : s.AtRest) : t.AtRest := by
  intro id v live
  rw [h.units, Option.map_eq_some_iff] at live
  obtain ⟨u, live, rfl⟩ := live
  split
  · exact .inr (.inr rfl)
  · exact rests id u live

theorem Advanced.live (h : s.Advanced priorities done t) (live : s.graph.unit? id = some u)
    (left : id ∉ done) : t.graph.unit? id = some u := by
  rw [h.units, live, Option.map_some, if_neg left]

theorem Advanced.unmet (h : s.Advanced priorities done t) (feasible : s.graph.Feasible done)
    (met : ∀ d ∈ u.dependencies, s.graph.isComplete d = true ∨ d ∈ done) :
    t.graph.unmetOf u = [] := by
  refine Graph.unmetOf_eq_nil_iff.2 fun d hd => ?_
  by_cases hdone : d ∈ done
  · obtain ⟨v, live⟩ := feasible.live hdone
    exact ⟨_, by rw [h.units, live, Option.map_some, if_pos hdone], rfl⟩
  · obtain ⟨v, live, complete⟩ := Graph.isComplete_iff.1 ((met d hd).resolve_right hdone)
    exact ⟨v, h.live live hdone, complete⟩

theorem Advanced.snoc (h : s.Advanced priorities done t) (task : LaunchTask) (now : Nat) :
    s.Advanced priorities (done ++ [id])
      (((t.prioritise id (priorities id)).start id task now).release id .complete) := by
  refine ⟨h.budget, fun k => ?_⟩
  have turned : (((t.graph.update id fun u => { u with priority := priorities id }).setStatus id
      .running).setStatus id .complete).unit? k = if k = id then
        (t.graph.unit? k).map fun u => { u with priority := priorities id, status := .complete }
      else t.graph.unit? k := by
    rw [Graph.setStatus, Graph.setStatus, Graph.update_update, Graph.update_update,
      Graph.unit?_update]
    rfl
  refine turned.trans ?_
  by_cases hk : k = id
  · subst hk
    rw [if_pos rfl, h.units, Option.map_map]
    refine congrArg (Option.map · _) (funext fun u => ?_)
    rw [if_pos (by simp), Function.comp_apply]
    split <;> rfl
  · rw [if_neg hk, h.units]
    simp [hk]

end Scheduler

/-- Each unit is launched, and its run ends before the next one is launched. -/
def Command.turn (tasks : UnitId → LaunchTask) (priorities : UnitId → Int32) (id : UnitId) :
    List Command :=
  [.requestLaunch id (tasks id) (priorities id), .completed id]

/-- The launch gets a slot at once, and the end of the run gives none to any other unit. -/
inductive Command.Succeeds : Command → Except Refusal Answer → Prop
  | admitted {id task priority a} (named : a.unit.id = id) (asked : a.task = task) :
      Succeeds (.requestLaunch id task priority) (.ok (.launched (.admitted a)))
  | completed {id} : Succeeds (.completed id) (.ok (.ended (some ⟨id, .complete, []⟩)))

namespace Session

open BuildAdmission.Graph

variable {σ : Type} [Storage σ] {s t : Session σ} {calls more : List (Call σ)} {c : Call σ}
  {id : UnitId} {u : WorkUnit} {task : LaunchTask} {priority : Int32}

/-! ### One unit -/

/-- A unit that is ready gets a slot, if its checkpoints can be read. -/
theorem run_requestLaunch (ready : t.scheduler.Ready id u task) (priority : Int32) :
    (Op.requestLaunch id task priority).run t = match Storage.latest? id t.storage with
      | (.ok latest, storage) =>
        (.ok (.admitted ⟨{ u with priority, status := .running }, task, latest.map (·.resume),
            t.scheduler.nextTicket⟩),
          ((((t.change (·.prioritise id priority)).withStorage storage).change
            (·.start id task t.clock)).log id .admission none).flushed)
      | (.error refusal, storage) =>
        (.error refusal, (t.change (·.prioritise id priority)).withStorage storage) := by
  rw [Op.run_requestLaunch ready.live, if_pos ready.idle, ready.gate]
  simp only [ready.room, Bool.false_eq_true, if_false]
  rcases Storage.latest? id t.storage with ⟨refusal | latest, storage⟩ <;> rfl

theorem call_admitted (ready : t.scheduler.Ready id u task)
    (sight : ¬ (t.call (.requestLaunch id task priority)).LosesSight) :
    ∃ a, (t.call (.requestLaunch id task priority)).answer = .ok (.launched (.admitted a)) ∧
      a.unit = { u with priority, status := .running } ∧ a.task = task ∧
      (t.call (.requestLaunch id task priority)).after.scheduler =
        (t.scheduler.prioritise id priority).start id task t.clock := by
  have hrun := run_requestLaunch ready priority
  simp only [call, Command.perform, Op.run_map, hrun]
  rcases read : Storage.latest? id t.storage with ⟨refusal | latest, storage⟩
  · -- Where failures are noted the same read fails as well.
    have shown := Noted.view_inner.latest? id (t.noted [.loadLatest]).storage
    have refused := congrArg Prod.fst (shown.symm.trans read)
    obtain ⟨w, lost⟩ :
        ∃ w, Storage.latest? id (t.noted [.loadLatest]).storage = (.error refusal, w) :=
      ⟨_, Prod.ext refused rfl⟩
    refine absurd ?_ sight
    simp only [Call.LosesSight, Call.fails, call, Command.perform, Op.run_map, lost,
      run_requestLaunch (t := t.noted [.loadLatest]) ready priority]
    exact Noted.failed_of_error lost (by decide)
  · exact ⟨_, rfl, rfl, rfl, rfl⟩

/-- A run that ends while no launch waits leaves its slot free. -/
theorem call_completed (holds : Op.HoldsSlot t.scheduler id)
    (empty : t.scheduler.queue.entries = []) :
    (t.call (.completed id)).answer = .ok (.ended (some ⟨id, .complete, []⟩)) ∧
      (t.call (.completed id)).after.scheduler = t.scheduler.release id .complete := by
  obtain concludes | ⟨_, _, no⟩ := Op.completed_concludes id t
  · simp only [call, Command.perform, Op.run_map]
    generalize (Op.completed id).run t = ended at concludes
    obtain @⟨n, status, step⟩ := concludes
    obtain ⟨u, live, freed⟩ : ∃ u, t.scheduler.graph.unit? id = some u ∧
        n.scheduler = t.scheduler.release id .complete := by
      cases step with
      | complete live => exact ⟨_, live, rfl⟩
    have size : n.scheduler.queue.size = 0 := by
      rw [AdmissionQueue.size_eq_length, freed]
      exact List.length_eq_zero_iff.2 empty
    have none : Op.promote.run n = (.ok [], n) := by
      rw [Op.promote, Op.run_bind_ok (Op.run_scheduler n), size]
      rfl
    have done : (t.scheduler.release id .complete).graph.unit? id =
        some { u with status := .complete } := unit?_update_self live
    rw [run_conclude none, flushed_scheduler, freed, done]
    exact ⟨rfl, rfl⟩
  · exact absurd holds no

/-- A unit that is ready is launched and completed, while no other unit runs or waits. -/
theorem call_turn (kept : t.scheduler.Kept) (rests : t.scheduler.AtRest)
    (ready : t.scheduler.Ready id u task)
    (sight : ¬ (t.call (.requestLaunch id task priority)).LosesSight) {m : Session σ}
    (since : m.scheduler = (t.call (.requestLaunch id task priority)).after.scheduler) :
    Command.Succeeds (.requestLaunch id task priority)
        (t.call (.requestLaunch id task priority)).answer ∧
      Command.Succeeds (.completed id) (m.call (.completed id)).answer ∧
      (m.call (.completed id)).after.scheduler =
        ((t.scheduler.prioritise id priority).start id task t.clock).release id .complete := by
  obtain ⟨a, answered, unit, asked, started⟩ := call_admitted ready sight
  rw [started] at since
  have holds : Op.HoldsSlot m.scheduler id := by
    rw [since]
    exact ⟨_, _, unit?_update_self (ready.noted priority), rfl,
      (IdMap.find?_insert ..).trans (if_pos rfl)⟩
  have empty : m.scheduler.queue.entries = [] := by
    rw [since]
    exact rests.none_waits kept
  obtain ⟨answered', released⟩ := call_completed holds empty
  rw [answered, answered', released, since]
  exact ⟨.admitted (unit ▸ kept.keyed.live id u ready.live) asked, .completed, rfl⟩

/-! ### One unit after the other -/

theorem commands_callsOf (s : Session σ) (cs : List Command) :
    (s.callsOf cs).map (·.command) = cs := by
  induction cs generalizing s with
  | nil => rfl
  | cons c cs ih => exact congrArg (c :: ·) (ih (s.call c).after)

theorem Run.scheduler_nil (run : Run s [] t) : t.scheduler = s.scheduler := by
  obtain ⟨_, _, rfl⟩ := run.nil_inv
  rfl

theorem Run.scheduler_snoc (run : Run s (calls ++ [c]) t) : t.scheduler = c.after.scheduler := by
  obtain ⟨_, _, _, _, _, rfl⟩ := run.call_inv
  rfl

theorem Run.advances (run : Run s calls t) (opened : Opened s) (rests : t.scheduler.AtRest)
    {tasks : UnitId → LaunchTask} {priorities : UnitId → Int32}
    (fits : ∀ id u, t.scheduler.graph.unit? id = some u → u.status ≠ .complete →
      (t.scheduler.budget.check u.declaredSize (tasks id).estimatedCost).refusal? = none)
    {order : List UnitId} (feasible : t.scheduler.graph.Feasible order) {m : Session σ}
    (later : Run t more m)
    (planned : more.map (·.command) = order.flatMap (Command.turn tasks priorities))
    (sight : ∀ c ∈ more, ¬ c.LosesSight) :
    (∀ c ∈ more, c.command.Succeeds c.answer) ∧
      t.scheduler.Advanced priorities order m.scheduler := by
  induction feasible generalizing more m with
  | nil =>
      cases List.map_eq_nil_iff.1 planned
      exact ⟨by simp, later.scheduler_nil ▸ .refl _ _⟩
  | @snoc done id u feasible live left once met ih =>
      rw [List.flatMap_append, List.flatMap_singleton] at planned
      obtain ⟨more, last, rfl, hmore, hlast⟩ := List.map_eq_append_iff.1 planned
      obtain ⟨c, last, rfl, hc, hlast⟩ := List.map_eq_cons_iff.1 hlast
      obtain ⟨c', last, rfl, hc', hlast⟩ := List.map_eq_cons_iff.1 hlast
      cases List.map_eq_nil_iff.1 hlast
      obtain ⟨sight, sight'⟩ := List.forall_mem_append.1 sight
      obtain ⟨front, made⟩ := later.at_call rfl
      rw [List.append_cons] at later
      obtain ⟨between, made'⟩ := later.at_call rfl
      have launched : c.before.call (.requestLaunch id (tasks id) (priorities id)) = c :=
        hc ▸ made.symm
      have ended : c'.before.call (.completed id) = c' := hc' ▸ made'.symm
      obtain ⟨succeed, advanced⟩ := ih front hmore sight
      have reached := run.append front
      have kept := reached.kept opened
      have rests' := advanced.atRest rests
      have ready : c.before.scheduler.Ready id u (tasks id) :=
        { live := advanced.live live once
          idle := by simpa [left] using rests id u live
          met := advanced.unmet feasible met
          fits := advanced.budget ▸ fits id u live left
          room := rests'.room kept (reached.check opened) }
      have turn := call_turn kept rests' ready (launched ▸ sight' c List.mem_cons_self)
        (launched ▸ between.scheduler_snoc)
      rw [launched, ended] at turn
      obtain ⟨admitted, completed, since⟩ := turn
      rw [later.scheduler_snoc, since]
      refine ⟨List.forall_mem_append.2 ⟨succeed, ?_⟩, advanced.snoc ..⟩
      simp only [List.forall_mem_cons, hc, hc', admitted, completed, true_and]
      exact List.forall_mem_nil _

/-- The build order can be carried out. When no unit runs, waits for a slot or has failed, the units
that are left may be launched in that order, each after the run of the one before it has ended. If
the units are not too large and their checkpoints can be read, every launch gets a slot at once, no
end of a run gives a slot to any other unit, and in the end all units are complete. -/
theorem Run.order_executes (run : Run s calls t) (opened : Opened s) (rests : t.scheduler.AtRest)
    {order : List UnitId} (ordered : t.scheduler.graph.buildOrder = .ok order)
    (tasks : UnitId → LaunchTask) (priorities : UnitId → Int32)
    (fits : ∀ id u, t.scheduler.graph.unit? id = some u → u.status ≠ .complete →
      (t.scheduler.budget.check u.declaredSize (tasks id).estimatedCost).refusal? = none)
    {m : Session σ} (later : Run t more m)
    (planned : more.map (·.command) = (order.filter (!t.scheduler.graph.isComplete ·)).flatMap
      (Command.turn tasks priorities))
    (sight : ∀ c ∈ more, ¬ c.LosesSight) :
    (∀ c ∈ more, c.command.Succeeds c.answer) ∧
      ∀ id, (m.scheduler.graph.unit? id).map (·.status) =
        (t.scheduler.graph.unit? id).map fun _ => .complete := by
  have built := run.built opened
  have greedy : t.scheduler.graph.GreedyOrder order := by
    rcases buildOrder_cases built.keyed built.closed with ⟨order', hok, greedy⟩ | ⟨herr, _⟩
    · cases ordered.symm.trans hok
      exact greedy
    · cases ordered.symm.trans herr
  obtain ⟨succeed, advanced⟩ :=
    run.advances opened rests fits greedy.greedy.feasible later planned sight
  refine ⟨succeed, fun id => ?_⟩
  rw [advanced.units, Option.map_map]
  cases live : t.scheduler.graph.unit? id with
  | none => rfl
  | some u =>
      have placed : id ∈ order := greedy.perm.mem_iff.2 (IdMap.mem_keys_iff.2 ⟨u, live⟩)
      by_cases complete : u.status = .complete
      · simp only [Option.map_some, Function.comp_apply]
        split <;> simp [complete]
      · have left : t.scheduler.graph.isComplete id = false := by simp [isComplete, live, complete]
        simp [List.mem_filter, placed, left]

/-- What is left of the stack: `lib` goes on, and `app` comes after it. -/
def stackedTurns : List Command :=
  ["lib", "app"].flatMap (Command.turn (fun _ => ⟨"build", 1000⟩) fun _ => 3)

theorem order_executes_stacked : ∃ t m : Session Vault, Run fresh (fresh.callsOf stackedCalls) t ∧
    Run t (t.callsOf stackedTurns) m ∧
    t.scheduler.graph.buildOrder = .ok ["base", "lib", "app"] ∧
    (∀ c ∈ t.callsOf stackedTurns, c.command.Succeeds c.answer) ∧
    (m.scheduler.graph.unit? "app").map (·.status) = some .complete := by
  have run := run_callAll fresh stackedCalls
  have later := run_callAll (fresh.callAll stackedCalls) stackedTurns
  have ordered : (fresh.callAll stackedCalls).scheduler.graph.buildOrder =
      .ok ["base", "lib", "app"] := by decide +kernel
  have left : ["base", "lib", "app"].filter
      (!(fresh.callAll stackedCalls).scheduler.graph.isComplete ·) = ["lib", "app"] := by decide +kernel
  have all : (fresh.callAll stackedCalls).scheduler.graph.live.values.all (fun u =>
      (u.status = .pending ∨ u.status = .checkpointed ∨ u.status = .complete) ∧
        ((fresh.callAll stackedCalls).scheduler.budget.check u.declaredSize 1000).refusal? = none) =
      true := by decide +kernel
  have each (id : UnitId) (u : WorkUnit)
      (live : (fresh.callAll stackedCalls).scheduler.graph.unit? id = some u) :=
    of_decide_eq_true (List.all_eq_true.1 all u (mem_live_values.2 ⟨id, live⟩))
  have reads : ∀ c ∈ (fresh.callAll stackedCalls).callsOf stackedTurns,
      c.fails [.loadLatest] = false := by decide +kernel
  obtain ⟨succeed, complete⟩ := run.order_executes opened_fresh (fun id u live => (each id u live).1)
    ordered (fun _ => ⟨"build", 1000⟩) (fun _ => 3) (fun id u live _ => (each id u live).2) later
    ((commands_callsOf ..).trans (left ▸ rfl)) fun c hc => Bool.eq_false_iff.1 (reads c hc)
  refine ⟨_, _, run, later, ordered, succeed, (complete "app").trans ?_⟩
  decide +kernel

end Session

end BuildAdmission
