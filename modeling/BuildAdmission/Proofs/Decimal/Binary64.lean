import BuildAdmission.Decimal.Binary64
import Mathlib.Tactic.Positivity
import Mathlib.Tactic.SplitIfs

namespace BuildAdmission

namespace Binary64

variable {n d m : Nat}

/-! ### Doubles near the integers of 64 bits -/

/-- The nearest double as long as its exponent is not bounded. -/
def rounded (n d : Nat) : Binary64 :=
  let e := max (floorLog2 n d - 52) (-1074)
  let m := roundHalfEven (n * (power 2 e).2) (d * (power 2 e).1)
  if m = 1 <<< 53 then ⟨1 <<< 52, e + 1⟩ else ⟨m, e⟩

theorem ofRatio?_eq_rounded (h : n ≠ 0) :
    ofRatio? n d = if 971 < (rounded n d).exponent then none else some (rounded n d) := by
  rw [ofRatio?, if_neg h]
  rfl

theorem rounded_exponent_le (n d : Nat) :
    (rounded n d).exponent ≤ max (floorLog2 n d - 52) (-1074) + 1 := by
  unfold rounded
  dsimp only
  split <;> dsimp only <;> omega

theorem roundHalfEven_le (n d : Nat) : roundHalfEven n d ≤ n + 1 := by
  have quotient : n / d ≤ n := Nat.div_le_self n d
  unfold roundHalfEven
  dsimp only
  split_ifs <;> omega

theorem rounded_mantissa_le (n d : Nat) : (rounded n d).mantissa ≤
    n * (power 2 (max (floorLog2 n d - 52) (-1074))).2 + 2 ^ 52 := by
  have near := roundHalfEven_le (n * (power 2 (max (floorLog2 n d - 52) (-1074))).2)
    (d * (power 2 (max (floorLog2 n d - 52) (-1074))).1)
  unfold rounded
  dsimp only
  split <;> dsimp only <;> omega

theorem floorLog2_le (h : n ≠ 0) (small : n ≤ d * 2 ^ 200) : floorLog2 n d ≤ 200 := by
  have bound : n.log2 < d.log2 + 1 + 200 := by
    rw [Nat.log2_lt h, Nat.pow_add]
    exact Nat.lt_of_le_of_lt small (Nat.mul_lt_mul_of_pos_right Nat.lt_log2_self (by positivity))
  unfold floorLog2
  dsimp only
  split <;> omega

/-- A quotient that is not too great has a nearest double. -/
theorem ofRatio?_isSome (small : n ≤ d * 2 ^ 200) : (ofRatio? n d).isSome = true := by
  by_cases h : n = 0
  · rw [ofRatio?, if_pos h]
    rfl
  · have log := floorLog2_le h small
    have exponent := rounded_exponent_le n d
    rw [ofRatio?_eq_rounded h, if_neg (by omega)]
    rfl

theorem power_two_pos (e : Int) : 0 < (power 2 e).2 := Nat.pow_pos (by decide)

theorem floorLog2_one (h : n ≠ 0) (small : n < 2 ^ 64) :
    -1 ≤ floorLog2 n 1 ∧ floorLog2 n 1 ≤ 63 := by
  have bound : n.log2 < 64 := (Nat.log2_lt h).2 small
  have one : Nat.log2 1 = 0 := rfl
  unfold floorLog2
  dsimp only
  split <;> omega

theorem ofNat_bounds (small : n < 2 ^ 64) :
    (ofNat n).mantissa ≤ 2 ^ 118 ∧ (ofNat n).exponent ≤ 12 := by
  by_cases h : n = 0
  · subst h
    decide
  · have log := floorLog2_one h small
    have exponent := rounded_exponent_le n 1
    have mantissa := rounded_mantissa_le n 1
    have scale : (power 2 (max (floorLog2 n 1 - 52) (-1074))).2 ≤ 2 ^ 53 :=
      Nat.pow_le_pow_right (by decide) (by omega)
    have product := Nat.mul_le_mul (Nat.le_of_lt small) scale
    have value : ofNat n = rounded n 1 := by
      rw [ofNat, ofRatio?_eq_rounded h, if_neg (by omega)]
      rfl
    rw [value]
    omega

theorem ofNat_mul?_isSome (small : n < 2 ^ 64) : ((ofNat n).mul? (powerOfTen 0)).isSome = true := by
  obtain ⟨mantissa, exponent⟩ := ofNat_bounds small
  have one : (powerOfTen 0).toRatio = (2 ^ 52, 2 ^ 52) := by decide +kernel
  have scale : (power 2 (ofNat n).exponent).1 ≤ 2 ^ 12 :=
    Nat.pow_le_pow_right (by decide) (by omega)
  unfold mul?
  rw [one]
  apply ofRatio?_isSome
  calc (ofNat n).mantissa * (power 2 (ofNat n).exponent).1 * 2 ^ 52
      ≤ 2 ^ 118 * 2 ^ 12 * 2 ^ 52 := Nat.mul_le_mul_right _ (Nat.mul_le_mul mantissa scale)
    _ ≤ 2 ^ 52 * 2 ^ 200 := by decide
    _ ≤ (power 2 (ofNat n).exponent).2 * 2 ^ 52 * 2 ^ 200 :=
        Nat.mul_le_mul_right _ (Nat.le_mul_of_pos_left _ (power_two_pos _))

/-! ### The digits of an integer of 64 bits -/

theorem takeDigits_foldl {ds : List Nat} (h : ds.foldl (fun n d => 10 * n + d) m < UInt64.size) :
    takeDigits m ds = (ds.foldl (fun n d => 10 * n + d) m, 0) := by
  induction ds generalizing m with
  | nil => rfl
  | cons d ds ih =>
      have grows (ds : List Nat) (m : Nat) : m ≤ ds.foldl (fun n d => 10 * n + d) m := by
        induction ds generalizing m with
        | nil => exact Nat.le_refl m
        | cons d ds ih => exact Nat.le_trans (by omega) (ih (10 * m + d))
      rw [List.foldl_cons] at h ⊢
      rw [takeDigits, if_pos (Nat.lt_of_le_of_lt (grows ds _) h), ih h]

end Binary64

namespace JsonNumber

theorem foldl_digits (n : Nat) : (digits n).foldl (fun n d => 10 * n + d) 0 = n := by
  rw [digits, List.foldl_map]
  exact Nat.ofDigitChars_ten_toDigits

/-- An integer of 64 bits has a nearest double. -/
theorem ofInt_toBinary64?_isSome {n : Nat} (small : n < UInt64.size) :
    (ofInt n).toBinary64?.isSome = true := by
  have taken : Binary64.takeDigits 0 (digits n) = (n, 0) := by
    rw [Binary64.takeDigits_foldl (by rwa [foldl_digits]), foldl_digits]
  have plain : ofInt n = ⟨false, n, [], none⟩ := rfl
  have scaled : (ofInt n).toBinary64? = (Binary64.ofNat n).mulPowerOfTen? 0 := by
    simp [toBinary64?, plain, taken, Binary64.takeDigits]
  rw [scaled, Binary64.mulPowerOfTen?, if_pos (by decide)]
  exact Binary64.ofNat_mul?_isSome small

end JsonNumber

end BuildAdmission
