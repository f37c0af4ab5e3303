import BuildAdmission.Json.Writer
import BuildAdmission.Proofs.Json.Reader
import Mathlib.Tactic.SplitIfs

namespace BuildAdmission.Json

variable {ds rest : List Char} {c : Char} {fuel : Nat}

/-! ### Numbers -/

/-- No number goes on in the text. -/
def EndsNumber (rest : List Char) : Prop :=
  ∀ c ∈ rest.head?, c.isDigit = false ∧ c ≠ '.' ∧ c ≠ 'e' ∧ c ≠ 'E'

theorem endsNumber_nil : EndsNumber [] := nofun

theorem endsNumber_cons (digit : c.isDigit = false) (point : c ≠ '.') (small : c ≠ 'e')
    (large : c ≠ 'E') : EndsNumber (c :: rest) := by
  rintro _ ⟨⟩
  exact ⟨digit, point, small, large⟩

theorem spanDigits_append (digits : ∀ c ∈ ds, c.isDigit = true)
    (stop : ∀ c ∈ rest.head?, c.isDigit = false) : spanDigits (ds ++ rest) = (ds, rest) := by
  have none : rest.takeWhile Char.isDigit = [] ∧ rest.dropWhile Char.isDigit = rest := by
    cases rest with
    | nil => exact ⟨rfl, rfl⟩
    | cons c rest =>
        have hc := stop c rfl
        simp [hc]
  rw [spanDigits, List.takeWhile_append_of_pos digits, List.dropWhile_append_of_pos digits, none.1,
    none.2, List.append_nil]

theorem isDigit_toDigits (n : Nat) : ∀ c ∈ Nat.toDigits 10 n, c.isDigit = true := fun _ hc =>
  Nat.isDigit_of_mem_toDigits (by decide) (by decide) hc

theorem digitValues_map {values : List Nat} (decimal : ∀ d ∈ values, d < 10) :
    digitValues (values.map Nat.digitChar) = values := by
  rw [digitValues, List.map_map]
  refine (List.map_congr_left fun d hd => ?_).trans (List.map_id values)
  exact Nat.toNat_digitChar_sub_48_of_lt_ten (decimal d hd)

/-- A positive number is not written with a leading zero. -/
theorem toDigits_head {n : Nat} (pos : 0 < n) : ∀ c ∈ (Nat.toDigits 10 n).head?, c ≠ '0' := by
  induction n using Nat.strongRecOn with
  | _ n ih =>
      rw [Nat.toDigits_eq_if (by decide)]
      split
      · rintro _ ⟨⟩
        simpa using Nat.ne_of_gt pos
      · have shorter : n / 10 < n := Nat.div_lt_self pos (by decide)
        rw [List.head?_append_of_ne_nil _ Nat.toDigits_ne_nil]
        exact ih (n / 10) shorter (by omega)

theorem readWhole_append (n : Nat) (stop : ∀ c ∈ rest.head?, c.isDigit = false) :
    readWhole (Nat.toDigits 10 n ++ rest) = some (n, rest) := by
  rw [readWhole, spanDigits_append (isDigit_toDigits n) stop]
  rcases Nat.eq_zero_or_pos n with rfl | pos
  · rfl
  · have value : Nat.ofDigitChars 10 (Nat.toDigits 10 n) 0 = n := Nat.ofDigitChars_ten_toDigits
    have head := toDigits_head pos
    split
    · next same => exact absurd (Prod.mk.inj same).1 Nat.toDigits_ne_nil
    · next same => exact absurd rfl (head '0' (by rw [(Prod.mk.inj same).1]; rfl))
    · next same => exact absurd rfl (head '0' (by rw [(Prod.mk.inj same).1]; rfl))
    · next same => rw [← (Prod.mk.inj same).1, ← (Prod.mk.inj same).2, value]

theorem readExponentDigits_append (sign : Int) (n : Nat)
    (stop : ∀ c ∈ rest.head?, c.isDigit = false) :
    readExponentDigits sign (Nat.toDigits 10 n ++ rest) = some (some (sign * n), rest) := by
  have value : Nat.ofDigitChars 10 (Nat.toDigits 10 n) 0 = n := Nat.ofDigitChars_ten_toDigits
  rw [readExponentDigits, spanDigits_append (isDigit_toDigits n) stop]
  split
  · next same => exact absurd (Prod.mk.inj same).1 Nat.toDigits_ne_nil
  · next same => rw [← (Prod.mk.inj same).1, ← (Prod.mk.inj same).2, value]

def fractionText (values : List Nat) : List Char :=
  if values = [] then [] else '.' :: values.map Nat.digitChar

def exponentText : Option Int → List Char
  | none => []
  | some e => 'e' :: JsonNumber.signedDigits e

theorem write_number (n : JsonNumber) : n.write = (if n.negative then ['-'] else []) ++
    Nat.toDigits 10 n.whole ++ fractionText n.fraction ++ exponentText n.exponent := by
  rw [JsonNumber.write]
  rfl

theorem exponentText_stop (e : Option Int) (stop : EndsNumber rest) :
    ∀ c ∈ (exponentText e ++ rest).head?, c.isDigit = false ∧ c ≠ '.' := by
  cases e with
  | none => exact fun c hc => ⟨(stop c hc).1, (stop c hc).2.1⟩
  | some e =>
      rintro _ ⟨⟩
      decide

theorem fractionText_stop (values : List Nat)
    (stop : ∀ c ∈ rest.head?, c.isDigit = false ∧ c ≠ '.') :
    ∀ c ∈ (fractionText values ++ rest).head?, c.isDigit = false := by
  cases values with
  | nil => exact fun c hc => (stop c hc).1
  | cons d values =>
      rintro _ ⟨⟩
      decide

theorem readFraction_append {values : List Nat} (decimal : ∀ d ∈ values, d < 10)
    (stop : ∀ c ∈ rest.head?, c.isDigit = false ∧ c ≠ '.') :
    readFraction (fractionText values ++ rest) = some (values, rest) := by
  rw [fractionText]
  split
  · next none =>
    subst none
    rw [List.nil_append]
    unfold readFraction
    split
    · exact absurd rfl (stop '.' rfl).2
    · rfl
  · next some =>
    have digits : ∀ c ∈ values.map Nat.digitChar, c.isDigit = true := by
      intro c hc
      obtain ⟨d, hd, rfl⟩ := List.mem_map.1 hc
      rw [Nat.isDigit_digitChar]
      exact decide_eq_true (decimal d hd)
    rw [List.cons_append, readFraction, spanDigits_append digits fun c hc => (stop c hc).1]
    split
    · next same => exact absurd (List.map_eq_nil_iff.1 (Prod.mk.inj same).1) some
    · next same =>
      rw [← (Prod.mk.inj same).1, ← (Prod.mk.inj same).2, digitValues_map decimal]

theorem readExponent_append (e : Option Int) (stop : EndsNumber rest) :
    readExponent (exponentText e ++ rest) = some (e, rest) := by
  have digits : ∀ c ∈ rest.head?, c.isDigit = false := fun c hc => (stop c hc).1
  cases e with
  | none =>
      rw [exponentText, List.nil_append]
      unfold readExponent
      split
      · exact absurd rfl (stop 'e' rfl).2.2.1
      · exact absurd rfl (stop 'E' rfl).2.2.2
      · rfl
  | some e =>
      rw [exponentText, List.cons_append, readExponent]
      cases e with
      | ofNat n =>
          rw [JsonNumber.signedDigits, List.cons_append, readExponentSign,
            readExponentDigits_append 1 n digits, Int.one_mul]
          rfl
      | negSucc n =>
          rw [JsonNumber.signedDigits, List.cons_append, readExponentSign,
            readExponentDigits_append (-1) (n + 1) digits, Int.neg_one_mul]
          rfl

theorem readUnsigned_append {n : JsonNumber} (decimal : ∀ d ∈ n.fraction, d < 10)
    (stop : EndsNumber rest) : readUnsigned n.negative (Nat.toDigits 10 n.whole ++
      (fractionText n.fraction ++ (exponentText n.exponent ++ rest))) = some (n, rest) := by
  have behind := exponentText_stop n.exponent stop
  rw [readUnsigned, readWhole_append n.whole (fractionText_stop n.fraction behind)]
  simp only [Option.bind_eq_bind, Option.bind_some, readFraction_append decimal behind,
    readExponent_append n.exponent stop]
  rfl

theorem toDigits_ne_sign (n : Nat) : ∀ r, Nat.toDigits 10 n ++ rest ≠ '-' :: r := by
  intro r same
  cases hds : Nat.toDigits 10 n with
  | nil => exact Nat.toDigits_ne_nil hds
  | cons d ds =>
      have digit := isDigit_toDigits n d (by rw [hds]; exact List.mem_cons_self)
      rw [hds] at same
      cases same
      cases digit

theorem readNumber_append {n : JsonNumber} (decimal : ∀ d ∈ n.fraction, d < 10)
    (stop : EndsNumber rest) : readNumber (n.write ++ rest) = some (n, rest) := by
  have unsigned := readUnsigned_append decimal stop
  rw [write_number]
  simp only [List.append_assoc]
  cases sign : n.negative with
  | false =>
      rw [sign] at unsigned
      unfold readNumber
      split
      · next same => exact absurd same (toDigits_ne_sign n.whole _)
      · exact unsigned
  | true =>
      rw [sign] at unsigned
      exact unsigned

/-! ### Texts -/

theorem hexValue_digitChar {n : Nat} (h : n < 16) : hexValue n.digitChar = some n := by
  revert n
  decide

/-- A character is read back from what is written of it. -/
theorem readPiece_writeChar (c : Char) : readPiece (writeChar c ++ rest) = some (.char c, rest) := by
  unfold writeChar
  split_ifs with quote backslash _ _ _ _ _ control
  iterate 7 (· subst c; rfl)
  · have high := hexValue_digitChar (show c.toNat / 16 < 16 by omega)
    have low := hexValue_digitChar (show c.toNat % 16 < 16 by omega)
    have zero : hexValue '0' = some 0 := rfl
    have unit : hexUnit '0' '0' (c.toNat / 16).digitChar (c.toNat % 16).digitChar = some c.toNat := by
      simp only [hexUnit, zero, high, low, Option.bind_eq_bind, Option.bind_some]
      exact congrArg some (by omega)
    have whole : (isHighSurrogate c.toNat || isLowSurrogate c.toNat) = false := by
      simp only [isHighSurrogate, isLowSurrogate, Bool.or_eq_false_iff, Bool.and_eq_false_iff,
        decide_eq_false_iff_not]
      omega
    simp only [List.cons_append, List.nil_append, readPiece, unit, Option.bind_eq_bind,
      Option.bind_some, whole, Bool.false_eq_true, if_false, Char.ofNat_toNat]
  · rw [List.singleton_append]
    unfold readPiece
    split
    · next same => exact absurd (List.cons.inj same).1 quote
    · next same => exact absurd (List.cons.inj same).1 backslash
    · next same => exact absurd (List.cons.inj same).1 backslash
    · next same => exact absurd (List.cons.inj same).1 backslash
    · next same =>
      cases same
      rw [if_neg control]
    · next same => cases same

theorem readPieces_text (s : List Char) (enough : s.length < fuel) :
    readPieces fuel (s.flatMap writeChar ++ '"' :: rest) = some (s.map .char, rest) := by
  induction s generalizing fuel with
  | nil =>
      obtain ⟨fuel, rfl⟩ := Nat.exists_eq_succ_of_ne_zero (Nat.ne_of_gt enough)
      rfl
  | cons c s ih =>
      obtain ⟨fuel, rfl⟩ := Nat.exists_eq_succ_of_ne_zero (Nat.ne_of_gt (Nat.zero_lt_of_lt enough))
      rw [List.flatMap_cons, List.append_assoc, readPieces, readPiece_writeChar]
      simp only [Option.bind_eq_bind, Option.bind_some, ih (Nat.lt_of_succ_lt_succ enough)]
      rfl

theorem joinPieces_chars (s : List Char) : joinPieces (s.map .char) = some s := by
  induction s with
  | nil => rfl
  | cons c s ih => rw [List.map_cons, joinPieces, ih, Option.map_some]

theorem readText_append (s : String) (enough : s.toList.length < fuel) :
    readText fuel (s.toList.flatMap writeChar ++ '"' :: rest) = some (some s, rest) := by
  rw [readText, readPieces_text s.toList enough, Option.bind_eq_bind, Option.bind_some]
  dsimp only
  rw [joinPieces_chars, Option.map_some, String.ofList_toList]
  rfl

theorem length_writeText (s : String) : s.toList.length + 2 ≤ (writeText s).length := by
  have each : ∀ c, 1 ≤ (writeChar c).length := by
    intro c
    unfold writeChar
    split_ifs <;> exact Nat.le_add_left ..
  have inner : s.toList.length ≤ (s.toList.flatMap writeChar).length := by
    induction s.toList with
    | nil => exact Nat.le_refl 0
    | cons c s ih =>
        rw [List.flatMap_cons, List.length_append, List.length_cons]
        have := each c
        omega
  simp only [writeText, List.length_cons, List.length_append]
  omega

theorem readText_writeText (s : String) (enough : (writeText s).length ≤ fuel + 1) :
    readText fuel ((writeText s).tail ++ rest) = some (some s, rest) := by
  have length := length_writeText s
  rw [writeText, List.cons_append, List.tail_cons, List.append_assoc]
  exact readText_append s (by omega)

theorem readText_loneSurrogate (enough : loneSurrogateText.length ≤ fuel + 1) :
    readText fuel (loneSurrogateText.tail ++ rest) = some (none, rest) := by
  obtain ⟨fuel, rfl⟩ := Nat.exists_eq_add_of_le' (show 2 ≤ fuel by change 8 ≤ fuel + 1 at enough; omega)
  rfl

end BuildAdmission.Json
