import BuildAdmission.Budget.Basic
import BuildAdmission.Proofs.Except

namespace BuildAdmission

theorem toNat_saturatingAdd (a b : UInt64) :
    (saturatingAdd a b).toNat = min (a.toNat + b.toNat) (UInt64.size - 1) := by
  rw [saturatingAdd, UInt64.toNat_ofNat']
  exact Nat.mod_eq_of_lt (Nat.lt_of_le_of_lt (Nat.min_le_right _ _) (by decide))

theorem BudgetDecision.refusal?_eq_none_iff {d : BudgetDecision} :
    d.refusal? = none ↔ d.admitted = true ∧ d.action ≠ .abort := by
  unfold refusal?
  split <;> simp_all

theorem BudgetDecision.allowsLaunch_iff {d : BudgetDecision} :
    d.allowsLaunch = true ↔ d.refusal? = none := by
  rw [refusal?_eq_none_iff, allowsLaunch, Bool.and_eq_true, decide_eq_true_iff]

theorem Tier.action_eq_abort_iff {tier : Tier} : tier.action = .abort ↔ tier = .red := by
  cases tier <;> decide

namespace Budget

variable {b b' : Budget} {size size' cost cost' margin limit : UInt64} {thresholds : Thresholds}

theorem toNat_projected (size cost margin : UInt64) :
    (projected size cost margin).toNat =
      min (size.toNat + cost.toNat + margin.toNat) (UInt64.size - 1) := by
  rw [projected, toNat_saturatingAdd, toNat_saturatingAdd]
  omega

/-- Each tier is told by its own threshold, but with ascending thresholds the last decides. -/
theorem action_ne_abort_iff (h : b.thresholds.Ascending) :
    (b.classify size).action ≠ .abort ↔ size < b.thresholds.emergency := by
  obtain ⟨hwarning, hsplit, hemergency⟩ := h
  have hlast := UInt64.lt_trans hsplit hemergency
  unfold classify
  split
  · next hlt =>
    exact iff_of_true (by decide) (UInt64.lt_trans hlt (UInt64.lt_trans hwarning hlast))
  · split
    · next hlt => exact iff_of_true (by decide) (UInt64.lt_trans hlt hlast)
    · split
      · next hlt => exact iff_of_true (by decide) hlt
      · next hlt => exact iff_of_false (by decide) hlt

/-- A tier is told by how many of the thresholds at which a tier begins the size has reached. -/
theorem rank_classify (h : b.thresholds.Ascending) : (b.classify size).rank =
    [b.thresholds.optimal, b.thresholds.warning, b.thresholds.emergency].countP (· ≤ size) := by
  obtain ⟨hwarning, hsplit, hemergency⟩ := h
  simp only [UInt64.lt_iff_toNat_lt] at hwarning hsplit hemergency
  simp only [classify, UInt64.lt_iff_toNat_lt, UInt64.le_iff_toNat_le, List.countP_cons,
    List.countP_nil, decide_eq_true_eq]
  split
  · rw [if_neg (by omega), if_neg (by omega), if_neg (by omega)]
    rfl
  · split
    · rw [if_neg (by omega), if_neg (by omega), if_pos (by omega)]
      rfl
    · split
      · rw [if_neg (by omega), if_pos (by omega), if_pos (by omega)]
        rfl
      · rw [if_pos (by omega), if_pos (by omega), if_pos (by omega)]
        rfl

theorem classify_mono (h : b.thresholds.Ascending) (larger : size ≤ size') :
    b.classify size ≤ b.classify size' := by
  change (b.classify size).rank ≤ (b.classify size').rank
  rw [rank_classify h, rank_classify h]
  refine List.countP_mono_left fun threshold _ reached => ?_
  exact decide_eq_true (UInt64.le_trans (of_decide_eq_true reached) larger)

theorem isEmergency_iff (h : b.thresholds.Ascending) :
    b.isEmergency size = true ↔ b.classify size = .red := by
  rw [isEmergency, decide_eq_true_iff, ← UInt64.not_lt, ← action_ne_abort_iff h, ne_eq,
    Decidable.not_not, Tier.action_eq_abort_iff]

theorem check_refusal?_eq_none_iff (h : b.thresholds.Ascending) :
    (b.check size cost).refusal? = none ↔
      size < b.thresholds.emergency ∧
        min (size.toNat + cost.toNat + b.safetyMargin.toNat) (UInt64.size - 1) ≤
          b.hardLimit.toNat := by
  rw [BudgetDecision.refusal?_eq_none_iff, and_comm]
  refine and_congr (action_ne_abort_iff h) ?_
  rw [← toNat_projected, ← UInt64.le_iff_toNat_le]
  exact decide_eq_true_iff

/-- What is allowed stays allowed for a smaller unit and a cheaper task. -/
theorem allowsLaunch_antitone (h : b.thresholds.Ascending) (larger : size ≤ size')
    (dearer : cost ≤ cost') (allowed : (b.check size' cost').allowsLaunch = true) :
    (b.check size cost).allowsLaunch = true := by
  rw [BudgetDecision.allowsLaunch_iff, check_refusal?_eq_none_iff h] at allowed ⊢
  obtain ⟨below, within⟩ := allowed
  rw [UInt64.le_iff_toNat_le] at larger dearer
  rw [UInt64.lt_iff_toNat_lt] at below ⊢
  exact ⟨by omega, by omega⟩

theorem ascending_of_check (h : thresholds.check = .ok ()) : thresholds.Ascending := by
  unfold Thresholds.check at h
  split at h
  · next ascending => exact ascending
  · cases h

theorem new_eq_ok_iff : new thresholds margin limit = .ok b ↔
    thresholds.Ascending ∧ limit ≠ 0 ∧ b = ⟨thresholds, margin, limit⟩ := by
  unfold new Thresholds.check
  by_cases ascending : thresholds.Ascending
  · by_cases none : limit = 0
    · simp [ascending, none]
    · simp [ascending, none, eq_comm]
  · simp [ascending]

theorem ascending_new {hardLimit : UInt64} (h : new thresholds margin hardLimit = .ok b) :
    b.thresholds.Ascending := by
  obtain ⟨ascending, _, rfl⟩ := new_eq_ok_iff.1 h
  exact ascending

theorem ascending_withThresholds (h : b.withThresholds thresholds = .ok b') :
    b'.thresholds.Ascending := by
  obtain ⟨⟨⟩, hcheck, h⟩ := Except.bind_eq_ok_iff.1 h
  cases h
  exact ascending_of_check hcheck

/-! ### The gate -/

/-- A change of the thresholds that is refused leaves the budget as it was. -/
def retuned (b : Budget) (thresholds : Thresholds) : Budget :=
  (b.withThresholds thresholds).toOption.getD b

/-- A budget as it was made, after any changes of its thresholds. -/
inductive Reached : Budget → Prop
  | new {thresholds : Thresholds} {margin limit : UInt64} {b : Budget}
      (made : new thresholds margin limit = .ok b) : Reached b
  | retuned {b : Budget} (thresholds : Thresholds) (h : Reached b) : Reached (b.retuned thresholds)

theorem Reached.ascending (h : Reached b) : b.thresholds.Ascending := by
  induction h with
  | new made => exact ascending_new made
  | @retuned b thresholds _ ih =>
      unfold Budget.retuned
      cases changed : b.withThresholds thresholds with
      | error e => exact ih
      | ok b' => exact ascending_withThresholds changed

/-- A sum above all 64-bit numbers is cut, so the greatest limit never refuses. -/
theorem canAdmit_iff : canAdmit size cost margin limit = true ↔
    size.toNat + cost.toNat + margin.toNat ≤ limit.toNat ∨ limit.toNat = UInt64.size - 1 := by
  have small := limit.toNat_lt
  rw [canAdmit, decide_eq_true_iff, UInt64.le_iff_toNat_le, toNat_projected, UInt64.size]
  omega

/-- The gate compares the true sum with the limit, unless the limit is the greatest 64-bit number,
which no sum exceeds. -/
theorem Reached.gate_exact (h : Reached b) :
    (∀ size cost, (b.check size cost).allowsLaunch = true ↔ size < b.thresholds.emergency ∧
      (size.toNat + cost.toNat + b.safetyMargin.toNat ≤ b.hardLimit.toNat ∨
        b.hardLimit.toNat = UInt64.size - 1)) ∧
    (∀ size cost, (b.check size cost).refusal? = none ↔
      (b.check size cost).allowsLaunch = true) ∧
    ∀ current cost margin limit, canAdmit current cost margin limit = true ↔
      current.toNat + cost.toNat + margin.toNat ≤ limit.toNat ∨
        limit.toNat = UInt64.size - 1 := by
  refine ⟨fun size cost => ?_, fun size cost => BudgetDecision.allowsLaunch_iff.symm,
    fun _ _ _ _ => canAdmit_iff⟩
  rw [BudgetDecision.allowsLaunch_iff, BudgetDecision.refusal?_eq_none_iff, and_comm]
  exact and_congr (action_ne_abort_iff h.ascending) canAdmit_iff

theorem gate_exact_retuned : ∃ b, new .standard 20000 180000 = .ok b ∧
    b.retuned ⟨4, 3, 2, 1⟩ = b ∧ (b.retuned ⟨1, 2, 3, 4⟩).thresholds = ⟨1, 2, 3, 4⟩ ∧
    (((b.retuned ⟨4, 3, 2, 1⟩).retuned ⟨1, 2, 3, 4⟩).check 3 159997).allowsLaunch = true := by
  have made : new .standard 20000 180000 = .ok ⟨.standard, 20000, 180000⟩ := rfl
  have gate := ((Reached.new made).retuned ⟨4, 3, 2, 1⟩ |>.retuned ⟨1, 2, 3, 4⟩).gate_exact
  exact ⟨_, made, by decide +kernel, by decide +kernel, (gate.1 3 159997).2 (by decide +kernel)⟩

/-- With the greatest limit a task is let in although the sum exceeds the limit. -/
theorem gate_greatest_limit :
    ∃ b, new .standard 1 (.ofNat (UInt64.size - 1)) = .ok b ∧
      (b.check 0 (.ofNat (UInt64.size - 1))).allowsLaunch = true ∧
      (b.check 0 (.ofNat (UInt64.size - 1))).refusal? = none ∧
      ¬(0 : UInt64).toNat + (UInt64.ofNat (UInt64.size - 1)).toNat + b.safetyMargin.toNat ≤
        b.hardLimit.toNat ∧
      canAdmit (.ofNat (UInt64.size - 1)) 1 0 (.ofNat (UInt64.size - 1)) = true ∧
      ¬(UInt64.ofNat (UInt64.size - 1)).toNat + (1 : UInt64).toNat + (0 : UInt64).toNat ≤
        (UInt64.ofNat (UInt64.size - 1)).toNat :=
  ⟨⟨.standard, 1, .ofNat (UInt64.size - 1)⟩, rfl, by decide +kernel, by decide +kernel,
    by decide +kernel, by decide +kernel, by decide +kernel⟩

end Budget

end BuildAdmission
