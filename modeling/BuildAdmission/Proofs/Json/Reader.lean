import BuildAdmission.Json.Reader
import Mathlib.Data.List.DropRight
import Mathlib.Order.Lattice

namespace BuildAdmission.Json

variable {cs rest : List Char} {v : Json} {vs : List Json} {ms : List (JsonName × Json)} {fuel : Nat}

/-- How a value is read to its end, with fuel for what is inside it. -/
inductive ValueRead (fuel : Nat) (cs rest : List Char) : Json → Prop
  | literalNull (start : skipBlanks cs = 'n' :: 'u' :: 'l' :: 'l' :: rest) : ValueRead fuel cs rest .null
  | literalTrue (start : skipBlanks cs = 't' :: 'r' :: 'u' :: 'e' :: rest) :
      ValueRead fuel cs rest (.bool true)
  | literalFalse (start : skipBlanks cs = 'f' :: 'a' :: 'l' :: 's' :: 'e' :: rest) :
      ValueRead fuel cs rest (.bool false)
  | text {inner s} (start : skipBlanks cs = '"' :: inner)
      (read : readText fuel inner = some (some s, rest)) : ValueRead fuel cs rest (.text s)
  | loneSurrogate {inner} (start : skipBlanks cs = '"' :: inner)
      (read : readText fuel inner = some (none, rest)) : ValueRead fuel cs rest .loneSurrogate
  | emptyArray {inner} (start : skipBlanks cs = '[' :: inner) (close : skipBlanks inner = ']' :: rest) :
      ValueRead fuel cs rest (.array [])
  | array {inner vs} (start : skipBlanks cs = '[' :: inner)
      (filled : ∀ r, skipBlanks inner ≠ ']' :: r)
      (read : readItems fuel (skipBlanks inner) = (vs, some rest)) :
      ValueRead fuel cs rest (.array vs)
  | emptyObject {inner} (start : skipBlanks cs = '{' :: inner)
      (close : skipBlanks inner = '}' :: rest) : ValueRead fuel cs rest (.object [])
  | object {inner ms} (start : skipBlanks cs = '{' :: inner)
      (filled : ∀ r, skipBlanks inner ≠ '}' :: r)
      (read : readMembers fuel (skipBlanks inner) = (ms, some rest)) :
      ValueRead fuel cs rest (.object ms)
  | number {n} (read : readNumber (skipBlanks cs) = some (n, rest)) :
      ValueRead fuel cs rest (.number n)

/-- How the items of an array are read. -/
inductive ItemsRead (fuel : Nat) (cs rest : List Char) : List Json → Prop
  | last {v r} (read : readValue fuel cs = (v, some r)) (close : skipBlanks r = ']' :: rest) :
      ItemsRead fuel cs rest [v]
  | more {v r r' vs} (read : readValue fuel cs = (v, some r)) (comma : skipBlanks r = ',' :: r')
      (others : readItems fuel r' = (vs, some rest)) : ItemsRead fuel cs rest (v :: vs)

/-- How a member of an object is read, up to what follows its value. -/
structure MemberRead (fuel : Nat) (cs rest : List Char) (name : JsonName) (v : Json) : Prop where
  read : ∃ inner r r', skipBlanks cs = '"' :: inner ∧ readText fuel inner = some (name, r) ∧
    skipBlanks r = ':' :: r' ∧ readValue fuel r' = (v, some rest)

inductive MembersRead (fuel : Nat) (cs rest : List Char) : List (JsonName × Json) → Prop
  | last {name v r} (member : MemberRead fuel cs r name v) (close : skipBlanks r = '}' :: rest) :
      MembersRead fuel cs rest [(name, v)]
  | more {name v r r' ms} (member : MemberRead fuel cs r name v) (comma : skipBlanks r = ',' :: r')
      (others : readMembers fuel r' = (ms, some rest)) :
      MembersRead fuel cs rest ((name, v) :: ms)

theorem readValue_cases (h : readValue (fuel + 1) cs = (v, some rest)) :
    ValueRead fuel cs rest v := by
  unfold readValue at h
  split at h
  · next hcs => cases h; exact .literalNull hcs
  · next hcs => cases h; exact .literalTrue hcs
  · next hcs => cases h; exact .literalFalse hcs
  · next hcs =>
    split at h
    · next read => cases h; exact .text hcs read
    · next read => cases h; exact .loneSurrogate hcs read
    · cases h
  · next hcs =>
    split at h
    · next close => cases h; exact .emptyArray hcs close
    · next filled =>
      obtain ⟨hv, hr⟩ := Prod.mk.inj h
      subst hv
      exact .array hcs filled (Prod.ext rfl hr)
  · next hcs =>
    split at h
    · next close => cases h; exact .emptyObject hcs close
    · next filled =>
      obtain ⟨hv, hr⟩ := Prod.mk.inj h
      subst hv
      exact .object hcs filled (Prod.ext rfl hr)
  · next hcs =>
    split at h
    · next read => cases h; exact .number read
    · cases h

theorem readItems_cases (h : readItems (fuel + 1) cs = (vs, some rest)) :
    ItemsRead fuel cs rest vs := by
  unfold readItems at h
  split at h
  · cases h
  · next read =>
    split at h
    · next close => cases h; exact .last read close
    · next comma =>
      obtain ⟨hv, hr⟩ := Prod.mk.inj h
      subst hv
      exact .more read comma (Prod.ext rfl hr)
    · cases h

theorem readMembers_cases (h : readMembers (fuel + 1) cs = (ms, some rest)) :
    MembersRead fuel cs rest ms := by
  unfold readMembers at h
  split at h
  · next start =>
    split at h
    · next name =>
      split at h
      · next colon =>
        split at h
        · cases h
        · next value =>
          have member := MemberRead.mk ⟨_, _, _, start, name, colon, value⟩
          split at h
          · next close => cases h; exact .last member close
          · next comma =>
            obtain ⟨hv, hr⟩ := Prod.mk.inj h
            subst hv
            exact .more member comma (Prod.ext rfl hr)
          · cases h
      · cases h
    · cases h
  · cases h

theorem readNumber_eq_none {c : Char} (sign : c ≠ '-') (digit : c.isDigit = false) :
    readNumber (c :: cs) = none := by
  have hread : readNumber (c :: cs) = readUnsigned false (c :: cs) := by
    unfold readNumber
    split
    · next h => cases h; exact absurd rfl sign
    · rfl
  rw [hread]
  simp [readUnsigned, readWhole, spanDigits, digit]

theorem ValueRead.readValue (h : ValueRead fuel cs rest v) :
    readValue (fuel + 1) cs = (v, some rest) := by
  unfold Json.readValue
  cases h with
  | literalNull start => rw [start]; rfl
  | literalTrue start => rw [start]; rfl
  | literalFalse start => rw [start]; rfl
  | text start read => simp only [start, read]
  | loneSurrogate start read => simp only [start, read]
  | emptyArray start close => simp only [start, close]
  | array start filled read => simp only [start, read]
  | emptyObject start close => simp only [start, close]
  | object start filled read => simp only [start, read]
  | number read =>
      have other {c : Char} {cs' : List Char} (sign : c ≠ '-') (digit : c.isDigit = false)
          (hcs : skipBlanks cs = c :: cs') : False := by
        rw [hcs, readNumber_eq_none sign digit] at read
        cases read
      split
      · next hcs => exact (other (by decide) (by decide) hcs).elim
      · next hcs => exact (other (by decide) (by decide) hcs).elim
      · next hcs => exact (other (by decide) (by decide) hcs).elim
      · next hcs => exact (other (by decide) (by decide) hcs).elim
      · next hcs => exact (other (by decide) (by decide) hcs).elim
      · next hcs => exact (other (by decide) (by decide) hcs).elim
      · rw [read]

theorem ItemsRead.readItems (h : ItemsRead fuel cs rest vs) :
    readItems (fuel + 1) cs = (vs, some rest) := by
  unfold Json.readItems
  cases h with
  | last read close => simp only [read, close]
  | more read comma others => simp only [read, comma, others]

theorem MembersRead.readMembers (h : MembersRead fuel cs rest ms) :
    readMembers (fuel + 1) cs = (ms, some rest) := by
  unfold Json.readMembers
  cases h with
  | last member close =>
      obtain ⟨inner, r, r', start, name, colon, value⟩ := member.read
      simp only [start, name, colon, value, close]
  | more member comma others =>
      obtain ⟨inner, r, r', start, name, colon, value⟩ := member.read
      simp only [start, name, colon, value, comma, others]

/-! ### Blanks in front -/

theorem readValue_skipBlanks (fuel : Nat) (cs : List Char) :
    readValue fuel (skipBlanks cs) = readValue fuel cs := by
  have twice : skipBlanks (skipBlanks cs) = skipBlanks cs := List.dropWhile_idempotent ..
  cases fuel with
  | zero => rfl
  | succ fuel => simp only [readValue, twice]

/-! ### More fuel -/

theorem readPieces_succ {ps : List Piece} (h : readPieces fuel cs = some (ps, rest)) :
    readPieces (fuel + 1) cs = some (ps, rest) := by
  induction fuel generalizing cs rest ps with
  | zero => cases h
  | succ fuel ih =>
      rw [readPieces] at h ⊢
      cases hp : readPiece cs with
      | none =>
          rw [hp] at h
          cases h
      | some next =>
          obtain ⟨p, r⟩ := next
          rw [hp] at h
          cases p with
          | stop => exact h
          | _ =>
              simp only [Option.bind_eq_bind, Option.bind_some, Option.bind_eq_some_iff] at h ⊢
              obtain ⟨⟨qs, r'⟩, hrest, hr⟩ := h
              exact ⟨⟨qs, r'⟩, ih hrest, hr⟩

theorem readText_succ {s : Option String} (h : readText fuel cs = some (s, rest)) :
    readText (fuel + 1) cs = some (s, rest) := by
  obtain ⟨⟨ps, r⟩, hps, hs⟩ := Option.bind_eq_some_iff.1 h
  exact Option.bind_eq_some_iff.2 ⟨⟨ps, r⟩, readPieces_succ hps, hs⟩

/-- What is read to its end is read in the same way with more fuel. -/
theorem read_succ (fuel : Nat) :
    (∀ cs rest v, readValue fuel cs = (v, some rest) → readValue (fuel + 1) cs = (v, some rest)) ∧
    (∀ cs rest vs, readItems fuel cs = (vs, some rest) →
      readItems (fuel + 1) cs = (vs, some rest)) ∧
    (∀ cs rest ms, readMembers fuel cs = (ms, some rest) →
      readMembers (fuel + 1) cs = (ms, some rest)) := by
  induction fuel with
  | zero =>
      refine ⟨?_, ?_, ?_⟩
      · intro cs rest v h
        cases h
      · intro cs rest vs h
        cases h
      · intro cs rest ms h
        cases h
  | succ fuel ih =>
      obtain ⟨value, items, members⟩ := ih
      have member {cs rest name v} (h : MemberRead fuel cs rest name v) :
          MemberRead (fuel + 1) cs rest name v := by
        obtain ⟨inner, r, r', start, text, colon, read⟩ := h.read
        exact ⟨inner, r, r', start, readText_succ text, colon, value _ _ _ read⟩
      refine ⟨?_, ?_, ?_⟩
      · intro cs rest v h
        apply ValueRead.readValue
        cases readValue_cases h with
        | literalNull start => exact .literalNull start
        | literalTrue start => exact .literalTrue start
        | literalFalse start => exact .literalFalse start
        | text start read => exact .text start (readText_succ read)
        | loneSurrogate start read => exact .loneSurrogate start (readText_succ read)
        | emptyArray start close => exact .emptyArray start close
        | array start filled read => exact .array start filled (items _ _ _ read)
        | emptyObject start close => exact .emptyObject start close
        | object start filled read => exact .object start filled (members _ _ _ read)
        | number read => exact .number read
      · intro cs rest vs h
        apply ItemsRead.readItems
        cases readItems_cases h with
        | last read close => exact .last (value _ _ _ read) close
        | more read comma others => exact .more (value _ _ _ read) comma (items _ _ _ others)
      · intro cs rest ms h
        apply MembersRead.readMembers
        cases readMembers_cases h with
        | last first close => exact .last (member first) close
        | more first comma others => exact .more (member first) comma (members _ _ _ others)

theorem readValue_mono {fuel' : Nat} (h : readValue fuel cs = (v, some rest))
    (more : fuel ≤ fuel') : readValue fuel' cs = (v, some rest) := by
  induction more with
  | refl => exact h
  | step _ ih => exact (read_succ _).1 _ _ _ ih

theorem readValue_unique {fuel' : Nat} {v' : Json} {rest' : List Char}
    (h : readValue fuel cs = (v, some rest)) (h' : readValue fuel' cs = (v', some rest')) :
    v = v' ∧ rest = rest' := by
  have same := (readValue_mono h (le_max_left fuel fuel')).symm.trans
    (readValue_mono h' (le_max_right fuel fuel'))
  cases same
  exact ⟨rfl, rfl⟩

/-! ### Documents -/

theorem read_ofList (cs : List Char) : read (.ofList cs) =
    ⟨(readValue (2 * cs.length + 2) cs).1,
      (readValue (2 * cs.length + 2) cs).2.any fun rest => (skipBlanks rest).isEmpty⟩ := by
  rw [read, String.toList_ofList]
  split
  · next h => rw [h]; rfl
  · next h => rw [h]; rfl

theorem read_complete : (read (.ofList cs)).complete = true ↔
    ∃ v rest, readValue (2 * cs.length + 2) cs = (v, some rest) ∧ skipBlanks rest = [] := by
  rw [read_ofList]
  constructor
  · intro complete
    obtain ⟨rest, hread, blank⟩ := Option.any_eq_true _ _ |>.1 complete
    exact ⟨_, rest, Prod.ext rfl hread, List.isEmpty_iff.1 blank⟩
  · rintro ⟨v, rest, hread, blank⟩
    simp [hread, blank]

theorem read_blanks {blanks : List Char} (h : skipBlanks blanks = [])
    (complete : (read (.ofList cs)).complete = true) :
    read (.ofList (blanks ++ cs)) = read (.ofList cs) := by
  obtain ⟨v, rest, hread, _⟩ := read_complete.1 complete
  have skipped : skipBlanks (blanks ++ cs) = skipBlanks cs := by
    unfold skipBlanks at h ⊢
    rw [List.dropWhile_append, h, List.isEmpty_nil, if_pos rfl]
  have longer : 2 * cs.length + 2 ≤ 2 * (blanks ++ cs).length + 2 := by
    rw [List.length_append]
    omega
  have same : readValue (2 * (blanks ++ cs).length + 2) (blanks ++ cs) = (v, some rest) := by
    rw [← readValue_skipBlanks, skipped, readValue_skipBlanks]
    exact readValue_mono hread longer
  rw [read_ofList, read_ofList, same, hread]

end BuildAdmission.Json
