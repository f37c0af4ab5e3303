import BuildAdmission.Text.Blank
import BuildAdmission.Text.Integer
import Mathlib.Data.List.DropRight

namespace BuildAdmission

variable {bound n m : Nat} {cs ds before after : List Char} {c : Char}

/-! ### Blanks around a text -/

theorem trimStart_append (blank : ∀ c ∈ before, isWhiteSpace c = true) :
    trimStart (before ++ cs) = trimStart cs := List.dropWhile_append_of_pos blank

theorem trimStart_of_solid (solid : ∀ c ∈ cs.head?, isWhiteSpace c = false) :
    trimStart cs = cs := by
  cases cs with
  | nil => rfl
  | cons c cs => exact List.dropWhile_cons_of_neg (by simp [solid c rfl])

/-- Of a text without blanks nothing is lost. -/
theorem trim_append (blank : ∀ c ∈ before, isWhiteSpace c = true)
    (blank' : ∀ c ∈ after, isWhiteSpace c = true) (solid : ∀ c ∈ ds, isWhiteSpace c = false)
    (some : ds ≠ []) : trim (before ++ ds ++ after) = ds := by
  have front : trimStart (ds ++ after) = ds ++ after := by
    refine trimStart_of_solid fun c hc => solid c ?_
    rw [List.head?_append_of_ne_nil _ some] at hc
    exact List.mem_of_mem_head? hc
  have back : trimStart ds.reverse = ds.reverse :=
    trimStart_of_solid fun c hc => solid c (List.mem_reverse.1 (List.mem_of_mem_head? hc))
  have blankBack : ∀ c ∈ after.reverse, isWhiteSpace c = true := fun c hc =>
    blank' c (List.mem_reverse.1 hc)
  rw [trim, List.append_assoc, trimStart_append blank, front, List.reverse_append,
    trimStart_append blankBack, back, List.reverse_reverse]

theorem exists_append_trim (cs : List Char) : ∃ before after, cs = before ++ trim cs ++ after ∧
    (∀ c ∈ before, isWhiteSpace c = true) ∧ ∀ c ∈ after, isWhiteSpace c = true := by
  refine ⟨cs.takeWhile isWhiteSpace, (trimStart cs).rtakeWhile isWhiteSpace, ?_,
    fun _ => List.mem_takeWhile_imp, fun _ => List.mem_rtakeWhile_imp⟩
  have rest : trim cs ++ (trimStart cs).rtakeWhile isWhiteSpace = trimStart cs :=
    List.rdropWhile_append_rtakeWhile
  rw [List.append_assoc, rest]
  exact List.takeWhile_append_dropWhile.symm

/-! ### Numerals -/

/-- The text is the number in decimal digits. -/
def IsDigits (ds : List Char) (n : Nat) : Prop :=
  ds ≠ [] ∧ (∀ c ∈ ds, c.isDigit = true) ∧ Nat.ofDigitChars 10 ds 0 = n

/-- A plus sign may stand in front of the digits. -/
def IsNumeral (cs : List Char) (n : Nat) : Prop :=
  IsDigits cs n ∨ ∃ ds, cs = '+' :: ds ∧ IsDigits ds n

theorem le_ofDigitChars (ds : List Char) (n : Nat) : n ≤ Nat.ofDigitChars 10 ds n := by
  induction ds generalizing n with
  | nil => exact Nat.le_refl n
  | cons c ds ih =>
      have larger : n ≤ 10 * n + (c.toNat - '0'.toNat) := by omega
      rw [Nat.ofDigitChars_cons]
      exact Nat.le_trans larger (ih _)

/-- The numbers on the way are below the bound because the last one is. -/
theorem readDigitsBelow_eq_ok_iff : readDigitsBelow bound n cs = .ok m ↔
    (∀ c ∈ cs, c.isDigit = true) ∧ Nat.ofDigitChars 10 cs n = m ∧ (cs = [] ∨ m < bound) := by
  induction cs generalizing n with
  | nil => simp [readDigitsBelow]
  | cons c cs ih =>
      rw [readDigitsBelow, Nat.ofDigitChars_cons, List.forall_mem_cons]
      by_cases digit : c.isDigit = true
      · have grows := le_ofDigitChars cs (10 * n + (c.toNat - '0'.toNat))
        simp only [if_pos digit]
        split
        · next small =>
          rw [ih]
          constructor
          · rintro ⟨digits, rfl, rfl | below⟩
            · exact ⟨⟨digit, digits⟩, rfl, .inr small⟩
            · exact ⟨⟨digit, digits⟩, rfl, .inr below⟩
          · rintro ⟨⟨_, digits⟩, value, none | below⟩
            · cases none
            · exact ⟨digits, value, .inr below⟩
        · next large =>
          refine iff_of_false nofun ?_
          rintro ⟨_, rfl, none | below⟩
          · cases none
          · exact large (Nat.lt_of_le_of_lt grows below)
      · rw [if_neg digit]
        exact iff_of_false nofun fun h => digit h.1.1

theorem readDigitsBelow_zero_iff (some : cs ≠ []) :
    readDigitsBelow bound 0 cs = .ok n ↔ IsDigits cs n ∧ n < bound := by
  rw [readDigitsBelow_eq_ok_iff, IsDigits]
  tauto

theorem not_isDigits_plus : ¬ IsDigits ('+' :: cs) n := fun h =>
  absurd (h.2.1 '+' List.mem_cons_self) (by decide)

theorem isNumeral_plus_iff : IsNumeral ('+' :: cs) n ↔ IsDigits cs n := by
  simp [IsNumeral, not_isDigits_plus]

theorem readNatBelow_eq_ok_iff : readNatBelow bound cs = .ok n ↔ IsNumeral cs n ∧ n < bound := by
  unfold readNatBelow
  split
  · simp [IsNumeral, IsDigits]
  · simp [isNumeral_plus_iff, IsDigits]
  · next cs alone =>
    have some : cs ≠ [] := fun none => alone (by rw [none])
    rw [readDigitsBelow_zero_iff some, isNumeral_plus_iff]
  · next some _ unsigned =>
    rw [readDigitsBelow_zero_iff some, IsNumeral]
    have bare : ¬ ∃ ds, cs = '+' :: ds ∧ IsDigits ds n := fun ⟨ds, same, _⟩ => unsigned ds same
    rw [or_iff_left bare]

/-! ### Texts that hold a number -/

/-- The text is a numeral with blanks around it. -/
def Denotes (cs : List Char) (n : Nat) : Prop :=
  ∃ before numeral after, cs = before ++ numeral ++ after ∧
    (∀ c ∈ before, isWhiteSpace c = true) ∧ (∀ c ∈ after, isWhiteSpace c = true) ∧
    IsNumeral numeral n

theorem isWhiteSpace_of_isDigit (h : c.isDigit = true) : isWhiteSpace c = false := by
  have bounds : 48 ≤ c.toNat ∧ c.toNat ≤ 57 := by
    simpa [Char.isDigit, UInt32.le_iff_toNat_le] using h
  simp only [isWhiteSpace, Bool.or_eq_false_iff, Bool.and_eq_false_iff, decide_eq_false_iff_not]
  omega

theorem IsDigits.solid (h : IsDigits cs n) : ∀ c ∈ cs, isWhiteSpace c = false := fun c hc =>
  isWhiteSpace_of_isDigit (h.2.1 c hc)

theorem IsNumeral.solid (h : IsNumeral cs n) : ∀ c ∈ cs, isWhiteSpace c = false := by
  obtain h | ⟨ds, rfl, h⟩ := h
  · exact h.solid
  · exact List.forall_mem_cons.2 ⟨by decide, h.solid⟩

theorem IsNumeral.ne_nil (h : IsNumeral cs n) : cs ≠ [] := by
  obtain h | ⟨ds, rfl, _⟩ := h
  · exact h.1
  · exact List.cons_ne_nil _ _

/-- Blanks apart, exactly the numerals below the bound are read. -/
theorem readNatBelow_trim_iff :
    readNatBelow bound (trim cs) = .ok n ↔ Denotes cs n ∧ n < bound := by
  rw [readNatBelow_eq_ok_iff]
  refine and_congr_left fun _ => ⟨fun numeral => ?_, ?_⟩
  · obtain ⟨before, after, whole, blank, blank'⟩ := exists_append_trim cs
    exact ⟨before, trim cs, after, whole, blank, blank', numeral⟩
  · rintro ⟨before, ds, after, rfl, blank, blank', numeral⟩
    rw [trim_append blank blank' numeral.solid numeral.ne_nil]
    exact numeral

theorem Denotes.unique (h : Denotes cs n) (h' : Denotes cs m) : n = m := by
  have below : n < max n m + 1 := by omega
  have below' : m < max n m + 1 := by omega
  exact Except.ok.inj ((readNatBelow_trim_iff.2 ⟨h, below⟩).symm.trans
    (readNatBelow_trim_iff.2 ⟨h', below'⟩))

end BuildAdmission
