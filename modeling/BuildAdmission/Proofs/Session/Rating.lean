import BuildAdmission.Proofs.Session.Admission
import BuildAdmission.Proofs.Session.Request
import BuildAdmission.Scheduler.Report

namespace BuildAdmission

theorem Budget.classify_congr {b b' : Budget} (same : b.thresholds = b'.thresholds) (size : UInt64) :
    b.classify size = b'.classify size := by
  rw [classify, classify, same]

/-- A unit whose dependencies are complete passes unless the budget refuses it. -/
theorem Scheduler.gate_of_met {s : Scheduler} {u : WorkUnit} (met : s.graph.unmetOf u = [])
    (task : LaunchTask) :
    let decision := s.budget.check u.declaredSize task.estimatedCost
    decision.allowsLaunch = true ∧ s.gate u task = .passed ∨
      ∃ reason, decision.allowsLaunch = false ∧ decision.refusal? = some reason ∧
        s.gate u task = .tooLarge decision reason := by
  intro decision
  cases refusal : decision.refusal? with
  | none =>
      exact .inl ⟨BudgetDecision.allowsLaunch_iff.2 refusal,
        Scheduler.gate_eq_passed_iff.2 ⟨met, refusal⟩⟩
  | some reason =>
      have refused : decision.allowsLaunch = false := by
        rw [← Bool.not_eq_true, BudgetDecision.allowsLaunch_iff, refusal]
        exact nofun
      refine .inr ⟨reason, refused, rfl, ?_⟩
      rw [gate, met]
      exact congrArg (Option.elim · _ _) refusal

namespace Session

variable {σ : Type} [Storage σ] {m n s t : Session σ} {e : Event} {calls : List (Call σ)}
  {id : UnitId} {u : WorkUnit}

/-! ### The budget of a session -/

theorem Opened.budget_reached (h : Opened s) : s.scheduler.budget.Reached := by
  cases h with
  | new valid made =>
      cases Scheduler.new_eq_ok made
      exact .new valid
  | restored valid made =>
      obtain ⟨_, _, _, _, _, _, _, _, _, made', rfl, _⟩ := Scheduler.restore_eq_ok made
      cases Scheduler.new_eq_ok made'
      exact .new valid

theorem Step.budget_reached (h : Step m e n) (hm : m.scheduler.budget.Reached) :
    n.scheduler.budget.Reached := by
  cases h with
  | @retune thresholds budget valid =>
      have changed : m.scheduler.budget.retuned thresholds = budget := by
        rw [Budget.retuned, valid]
        rfl
      exact changed ▸ hm.retuned thresholds
  | split =>
      rw [foldl_log_scheduler]
      exact hm
  | _ => exact hm

theorem Run.budget_reached (run : Run s calls t) (opened : Opened s) :
    t.scheduler.budget.Reached :=
  run.invariant (P := fun m => m.scheduler.budget.Reached) (fun _ _ _ step => step.budget_reached)
    (fun _ _ _ h => h) opened.budget_reached

/-! ### What a session says of a unit's size -/

theorem call_updateSize (live : m.scheduler.graph.unit? id = some u) (size : UInt64) :
    (m.call (.updateSize id size)).answer = .ok (.sized (m.scheduler.budget.classify size)) := by
  rw [call, Command.perform, Op.run_map, Op.updateSize, Op.run_bind, Op.run_edit,
    Graph.get_eq_ok_iff.2 live]
  simp only [Except.map, Op.run_bind, Op.run_persist, Op.run_scheduler, Op.run_pure]
  rfl

theorem run_unitReport (live : m.scheduler.graph.unit? id = some u) :
    ((Op.unitReport id).run m).1 = (Storage.latest? id m.storage).1.map fun latest =>
      { unit := u
        tier := m.scheduler.budget.classify u.declaredSize
        action := (m.scheduler.budget.classify u.declaredSize).action
        emergency := m.scheduler.budget.isEmergency u.declaredSize
        latestIteration := Checkpoint.iterationOf latest
        unmetDependencies := m.scheduler.graph.unmetOf u } := by
  rw [Op.unitReport, Op.run_bind_ok (Op.run_scheduler m), Op.run_bind, Op.run_liftM,
    Graph.get_eq_ok_iff.2 live]
  simp only [Op.run_bind, Op.latest?, Op.run_ofStorage]
  rcases Storage.latest? id m.storage with ⟨refusal | latest, storage⟩ <;> rfl

/-- However a session is asked about units of that size, it goes by that tier: when the size is
noted, in what it recommends and reports, and in the decisions on launches. -/
structure Rates (m : Session σ) (size : UInt64) (tier : Tier) : Prop where
  decided : ∀ cost, (m.scheduler.budget.check size cost).tier = tier ∧
    (m.scheduler.budget.check size cost).action = tier.action
  noted : ∀ id u, m.scheduler.graph.unit? id = some u →
    (m.call (.updateSize id size)).answer = .ok (.sized tier)
  recommended : ∀ id u, m.scheduler.graph.unit? id = some u → u.declaredSize = size →
    m.scheduler.recommend id = .ok tier.action
  reported : ∀ id u, m.scheduler.graph.unit? id = some u → u.declaredSize = size →
    ((Op.unitReport id).run m).1 = (Storage.latest? id m.storage).1.map fun latest =>
      ⟨u, tier, tier.action, tier = .red, Checkpoint.iterationOf latest,
        m.scheduler.graph.unmetOf u⟩
  /-- A request that only the budget can refuse is refused by the decision that is answered. -/
  requested : ∀ id u task priority, m.scheduler.graph.unit? id = some u → u.declaredSize = size →
    (u.status = .pending ∨ u.status = .checkpointed) → m.scheduler.graph.unmetOf u = [] →
    ∀ decision, (m.call (.requestLaunch id task priority)).answer =
        .ok (.launched (.splitRequired decision)) ↔
      decision = m.scheduler.budget.check size task.estimatedCost ∧ decision.allowsLaunch = false
  /-- Free slots are filled by promotions. -/
  filled : ∃ es n, (Op.promote : Op σ _).run m = (.ok (Event.admissions es), n) ∧ Trace m es n ∧
    ∀ e ∈ es, e.isPromotion = true
  /-- In a promotion, a launch that only the budget can refuse is refused by the decision whose
  reason is noted. -/
  taken : ∀ e n launch queue u, Step m e n → e.isPromotion = true →
    m.scheduler.queue.pop? = some (launch, queue) →
    m.scheduler.graph.unit? launch.unitId = some u → u.status = .queued → u.declaredSize = size →
    m.scheduler.graph.unmetOf u = [] →
    let decision := m.scheduler.budget.check size launch.task.estimatedCost
    (e = .demote launch.unitId ↔ decision.allowsLaunch = false) ∧ (decision.allowsLaunch = false →
      n.trail = m.trail ++ [⟨launch.unitId, .splitRequired, decision.refusal?⟩])

theorem requested_of_met (live : m.scheduler.graph.unit? id = some u)
    (idle : u.status = .pending ∨ u.status = .checkpointed)
    (met : m.scheduler.graph.unmetOf u = []) (task : LaunchTask) (priority : Int32)
    (decision : BudgetDecision) :
    (m.call (.requestLaunch id task priority)).answer = .ok (.launched (.splitRequired decision)) ↔
      decision = m.scheduler.budget.check u.declaredSize task.estimatedCost ∧
        decision.allowsLaunch = false := by
  rw [call_requestLaunch, Op.run_requestLaunch live, if_pos idle]
  obtain ⟨allowed, gate⟩ | ⟨reason, refused, _, gate⟩ := Scheduler.gate_of_met met task
  · simp only [gate]
    refine iff_of_false ?_ ?_
    · cases m.scheduler.isFull with
      | true => exact nofun
      | false => rcases Storage.latest? id m.storage with ⟨_ | _, _⟩ <;> exact nofun
    · rintro ⟨rfl, refused⟩
      cases allowed.symm.trans refused
  · simp only [gate]
    constructor
    · intro answered
      cases answered
      exact ⟨rfl, refused⟩
    · rintro ⟨rfl, _⟩
      rfl

theorem Step.taken_of_met (h : Step m e n) (promotes : e.isPromotion = true)
    {launch : QueuedLaunch} {queue : AdmissionQueue}
    (pop : m.scheduler.queue.pop? = some (launch, queue))
    (live : m.scheduler.graph.unit? launch.unitId = some u) (queued : u.status = .queued)
    (met : m.scheduler.graph.unmetOf u = []) :
    let decision := m.scheduler.budget.check u.declaredSize launch.task.estimatedCost
    (e = .demote launch.unitId ↔ decision.allowsLaunch = false) ∧ (decision.allowsLaunch = false →
      n.trail = m.trail ++ [⟨launch.unitId, .splitRequired, decision.refusal?⟩]) := by
  intro decision
  have weighed := Scheduler.gate_of_met met launch.task
  have spared (other : e ≠ .demote launch.unitId) (gate : m.scheduler.gate u launch.task = .passed) :
      (e = .demote launch.unitId ↔ decision.allowsLaunch = false) ∧
        (decision.allowsLaunch = false →
          n.trail = m.trail ++ [⟨launch.unitId, .splitRequired, decision.refusal?⟩]) := by
    obtain ⟨allowed, _⟩ | ⟨_, _, _, gate'⟩ := weighed
    · have unrefused : ¬ decision.allowsLaunch = false := by simp [decision, allowed]
      exact ⟨iff_of_false other unrefused, fun refused => absurd refused unrefused⟩
    · cases gate.symm.trans gate'
  cases h with
  | promote room pop' live' queued' gate read =>
      cases pop.symm.trans pop'
      cases live.symm.trans live'
      exact spared nofun gate
  | stall room pop' live' queued' gate read =>
      cases pop.symm.trans pop'
      cases live.symm.trans live'
      exact spared nofun gate
  | demote room pop' live' queued' gate =>
      cases pop.symm.trans pop'
      cases live.symm.trans live'
      obtain ⟨_, passed⟩ | ⟨reason, refused, refusal, gate'⟩ := weighed
      · rw [passed] at gate
        rcases gate with ⟨_, gate, _⟩ | ⟨_, gate, _⟩ <;> cases gate
      · rw [gate'] at gate
        obtain ⟨_, gate, _⟩ | ⟨_, gate, rfl⟩ := gate
        · cases gate
        · cases gate
          refine ⟨iff_of_true rfl refused, fun _ => ?_⟩
          rw [refusal]
          rfl
  | drop pop' stale =>
      cases pop.symm.trans pop'
      simp [live, queued] at stale
  | _ => cases promotes

theorem rates (ascending : m.scheduler.budget.thresholds.Ascending) (size : UInt64) :
    m.Rates size (m.scheduler.budget.classify size) := by
  constructor
  case decided => exact fun _ => ⟨rfl, rfl⟩
  case noted => exact fun _ _ live => call_updateSize live size
  case recommended =>
    rintro id u live rfl
    rw [Scheduler.recommend, Graph.get_eq_ok_iff.2 live]
    rfl
  case reported =>
    rintro id u live rfl
    have emergency : m.scheduler.budget.isEmergency u.declaredSize =
        decide (m.scheduler.budget.classify u.declaredSize = .red) := by
      rw [Bool.eq_iff_iff, decide_eq_true_iff]
      exact Budget.isEmergency_iff ascending
    rw [run_unitReport live, emergency]
  case requested =>
    rintro id u task priority live rfl idle met decision
    exact requested_of_met live idle met task priority decision
  case filled => exact Op.promote_trace m
  case taken =>
    rintro e n launch queue u step promotes pop live queued rfl met
    exact step.taken_of_met promotes pop live queued met

end Session

/-- A budget as it was made, after any changes of its thresholds, rates larger sizes no lower and
allows no launch that it would refuse to a smaller unit or for a cheaper task. All that it says of a
size agrees, and so does all that any session says which has the same thresholds. -/
theorem Budget.Reached.consistent {b : Budget} (h : b.Reached) :
    b.thresholds.Ascending ∧
    (∀ size, (b.classify size).rank =
      [b.thresholds.optimal, b.thresholds.warning, b.thresholds.emergency].countP (· ≤ size)) ∧
    (∀ size size', size ≤ size' → b.classify size ≤ b.classify size') ∧
    (∀ size, (b.isEmergency size = true ↔ b.classify size = .red) ∧
      (b.classify size = .red ↔ (b.classify size).action = .abort)) ∧
    (∀ size cost, (b.check size cost).refusal? = none ↔
      (b.check size cost).allowsLaunch = true) ∧
    (∀ size size' cost cost', size ≤ size' → cost ≤ cost' →
      (b.check size' cost').allowsLaunch = true → (b.check size cost).allowsLaunch = true) ∧
    ∀ {σ : Type} [Storage σ] (m : Session σ), m.scheduler.budget.thresholds = b.thresholds →
      ∀ size, m.Rates size (b.classify size) := by
  have ascending := h.ascending
  refine ⟨ascending, fun _ => rank_classify ascending, fun _ _ => classify_mono ascending,
    fun size => ⟨isEmergency_iff ascending, Tier.action_eq_abort_iff.symm⟩,
    fun _ _ => BudgetDecision.allowsLaunch_iff.symm,
    fun _ _ _ _ => allowsLaunch_antitone ascending, fun m same size => ?_⟩
  rw [← classify_congr same]
  exact Session.rates (same ▸ ascending) size

namespace Session

/-- `lib` is larger than the last of the thresholds that are set. Others are refused before. -/
def oversizedCalls : List Command :=
  [.addUnit ⟨"lib", .core, .pending, 0, 4500, ∅, 0, false⟩, .setThresholds ⟨4, 3, 2, 1⟩,
    .setThresholds ⟨1000, 2000, 3000, 4000⟩]

def oversized : Session Vault := fresh.callAll oversizedCalls

theorem consistent_oversized : oversized.scheduler.budget.Reached ∧
    oversized.scheduler.budget.thresholds = ⟨1000, 2000, 3000, 4000⟩ ∧
    oversized.Rates 4500 .red ∧ oversized.scheduler.recommend "lib" = .ok .abort ∧
    (oversized.call (.updateSize "lib" 4500)).answer = .ok (.sized .red) ∧
    (oversized.call (.requestLaunch "lib" ⟨"build", 10⟩ 0)).answer =
      .ok (.launched (.splitRequired ⟨.red, .abort, 24510, 180000, true⟩)) := by
  have reached := (run_callAll fresh oversizedCalls).budget_reached opened_fresh
  obtain ⟨_, _, _, _, _, _, sessions⟩ := Budget.Reached.consistent reached
  have rates : oversized.Rates 4500 .red := sessions oversized rfl 4500
  have live : oversized.scheduler.graph.unit? "lib" =
      some ⟨"lib", .core, .pending, 0, 4500, ∅, 0, false⟩ := by decide +kernel
  have met : oversized.scheduler.graph.unmetOf ⟨"lib", .core, .pending, 0, 4500, ∅, 0, false⟩ = [] :=
    rfl
  refine ⟨reached, by decide +kernel, rates, rates.recommended "lib" _ live rfl,
    rates.noted "lib" _ live, ?_⟩
  exact (rates.requested "lib" _ _ 0 live rfl (.inl rfl) met _).2 (by decide +kernel)

end Session

end BuildAdmission
