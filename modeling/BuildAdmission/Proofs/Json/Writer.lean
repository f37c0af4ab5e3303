import BuildAdmission.Json.Writer
import Mathlib.Tactic.SplitIfs

namespace BuildAdmission.Json

/-- A text without control characters. -/
def Plain (cs : List Char) : Prop := ∀ c ∈ cs, 32 ≤ c.toNat

instance (cs : List Char) : Decidable (Plain cs) := List.decidableBAll _ cs

variable {c : Char} {cs ds : List Char}

theorem plain_nil : Plain [] := List.forall_mem_nil _

theorem Plain.cons (h : Plain cs) (hc : 32 ≤ c.toNat) : Plain (c :: cs) :=
  List.forall_mem_cons.2 ⟨hc, h⟩

theorem Plain.append (h : Plain cs) (h' : Plain ds) : Plain (cs ++ ds) :=
  List.forall_mem_append.2 ⟨h, h'⟩

theorem plain_digitChar (n : Nat) : 32 ≤ n.digitChar.toNat := by
  rcases Nat.lt_or_ge n 16 with small | large
  · revert n
    decide
  · rw [Nat.digitChar_eq_star.2 large]
    decide

theorem plain_toDigits (n : Nat) : Plain (Nat.toDigits 10 n) := by
  intro c hc
  have digit := Nat.isDigit_of_mem_toDigits (by decide) (by decide) hc
  exact Nat.le_trans (by decide) (Char.isDigit_iff_toNat.1 digit).1

theorem plain_number (n : JsonNumber) : Plain n.write := by
  have fraction : Plain (n.fraction.map Nat.digitChar) := by
    intro c hc
    obtain ⟨d, _, rfl⟩ := List.mem_map.1 hc
    exact plain_digitChar d
  have exponent (e : Int) : Plain (JsonNumber.signedDigits e) := by
    cases e with
    | ofNat n => exact (plain_toDigits n).cons (by decide)
    | negSucc n => exact (plain_toDigits (n + 1)).cons (by decide)
  unfold JsonNumber.write
  refine .append (.append (.append ?_ (plain_toDigits _)) ?_) ?_
  · split
    · exact plain_nil.cons (by decide)
    · exact plain_nil
  · split
    · exact plain_nil
    · exact fraction.cons (by decide)
  · split
    · exact plain_nil
    · exact (exponent _).cons (by decide)

theorem plain_writeChar (c : Char) : Plain (writeChar c) := by
  unfold writeChar
  split_ifs with _ _ _ _ _ _ _ control
  iterate 7 (· decide)
  · have digits : Plain [(c.toNat / 16).digitChar, (c.toNat % 16).digitChar] :=
      .cons (.cons plain_nil (plain_digitChar _)) (plain_digitChar _)
    exact (by decide : Plain ['\\', 'u', '0', '0']).append digits
  · exact plain_nil.cons (Nat.not_lt.1 control)

theorem plain_writeText (s : String) : Plain (writeText s) := by
  have inner : Plain (s.toList.flatMap writeChar) := by
    intro c hc
    obtain ⟨a, _, hca⟩ := List.mem_flatMap.1 hc
    exact plain_writeChar a c hca
  exact (inner.cons (by decide)).append (by decide)

theorem plain_writeName (name : JsonName) : Plain (writeName name) := by
  cases name with
  | none => decide
  | some s => exact plain_writeText s

mutual

/-- A compact document is one line. -/
theorem plain_write : (v : Json) → Plain (write v)
  | .null => by decide
  | .bool true => by decide
  | .bool false => by decide
  | .number n => plain_number n
  | .text s => plain_writeText s
  | .loneSurrogate => by decide
  | .array items => (plain_writeItems items).cons (by decide)
  | .object members => (plain_writeMembers members).cons (by decide)
  | .cut => plain_nil

theorem plain_writeItems : (vs : List Json) → Plain (writeItems vs)
  | [] => by decide
  | v :: vs => (plain_write v).append (plain_writeMoreItems vs)

theorem plain_writeMoreItems : (vs : List Json) → Plain (writeMoreItems vs)
  | [] => by decide
  | v :: vs => ((plain_write v).append (plain_writeMoreItems vs)).cons (by decide)

theorem plain_writeMembers : (ms : List (JsonName × Json)) → Plain (writeMembers ms)
  | [] => by decide
  | (name, v) :: ms => .append (.append (plain_writeName name) (.cons (plain_write v) (by decide)))
      (plain_writeMoreMembers ms)

theorem plain_writeMoreMembers : (ms : List (JsonName × Json)) → Plain (writeMoreMembers ms)
  | [] => by decide
  | (name, v) :: ms => .cons (.append
      (.append (plain_writeName name) (.cons (plain_write v) (by decide)))
      (plain_writeMoreMembers ms)) (by decide)

end

end BuildAdmission.Json
