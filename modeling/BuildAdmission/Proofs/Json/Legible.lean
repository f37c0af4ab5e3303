import BuildAdmission.Proofs.Json.Atom

namespace BuildAdmission.Json

variable {cs ds g rest : List Char} {c : Char} {fuel : Nat} {v : Json} {vs : List Json}
  {m : JsonName × Json} {ms : List (JsonName × Json)}

/-! ### Values -/

/-- The text is read as the value, with enough fuel and wherever it stands. -/
def Spells (cs : List Char) (v : Json) : Prop := ∀ rest fuel, EndsNumber rest →
  2 * cs.length ≤ fuel → readValue fuel (cs ++ rest) = (v, some rest)

/-- The text is read as the items of an array, up to its end. -/
def SpellsItems (cs : List Char) (vs : List Json) : Prop := ∀ rest fuel,
  2 * cs.length ≤ fuel → readItems fuel (cs ++ rest) = (vs, some rest)

def SpellsMember (cs : List Char) (m : JsonName × Json) : Prop := ∀ rest fuel, EndsNumber rest →
  2 * cs.length ≤ fuel → MemberRead fuel (cs ++ rest) rest m.1 m.2

def SpellsMembers (cs : List Char) (ms : List (JsonName × Json)) : Prop := ∀ rest fuel,
  2 * cs.length ≤ fuel → readMembers fuel (cs ++ rest) = (ms, some rest)

theorem skipBlanks_append (blank : skipBlanks g = []) : skipBlanks (g ++ cs) = skipBlanks cs := by
  unfold skipBlanks at blank ⊢
  rw [List.dropWhile_append, blank, List.isEmpty_nil, if_pos rfl]

theorem skipBlanks_cons (mark : isBlank c = false) : skipBlanks (c :: rest) = c :: rest :=
  List.dropWhile_cons_of_neg (by simp [mark])

theorem skipBlanks_mark (blank : skipBlanks g = []) (mark : isBlank c = false) :
    skipBlanks (g ++ c :: rest) = c :: rest := by
  rw [skipBlanks_append blank, skipBlanks_cons mark]

theorem Spells.blanks (h : Spells cs v) (blank : skipBlanks g = []) : Spells (g ++ cs) v := by
  intro rest fuel stop enough
  rw [List.length_append] at enough
  rw [List.append_assoc, ← readValue_skipBlanks, skipBlanks_append blank, readValue_skipBlanks]
  exact h rest fuel stop (by omega)

theorem endsNumber_blanks (blank : skipBlanks g = []) (stop : EndsNumber rest) :
    EndsNumber (g ++ rest) := by
  cases g with
  | nil => exact stop
  | cons c g =>
      have hc : isBlank c = true := List.dropWhile_eq_nil_iff.1 blank c List.mem_cons_self
      simp only [isBlank, Bool.or_eq_true, decide_eq_true_eq] at hc
      rcases hc with ((rfl | rfl) | rfl) | rfl <;> exact endsNumber_cons (by decide) (by decide)
        (by decide) (by decide)

theorem SpellsItems.last (h : Spells cs v) (blank : skipBlanks g = []) :
    SpellsItems (cs ++ (g ++ [']'])) [v] := by
  intro rest fuel enough
  simp only [List.length_append, List.length_singleton] at enough
  obtain ⟨fuel, rfl⟩ := Nat.exists_eq_add_of_le' (show 1 ≤ fuel by omega)
  simp only [List.append_assoc, List.singleton_append]
  have stop : EndsNumber (g ++ ']' :: rest) :=
    endsNumber_blanks blank (endsNumber_cons (by decide) (by decide) (by decide) (by decide))
  exact (ItemsRead.last (h _ fuel stop (by omega)) (skipBlanks_mark blank rfl)).readItems

theorem SpellsItems.more (h : Spells cs v) (others : SpellsItems ds vs) :
    SpellsItems (cs ++ ',' :: ds) (v :: vs) := by
  intro rest fuel enough
  simp only [List.length_append, List.length_cons] at enough
  obtain ⟨fuel, rfl⟩ := Nat.exists_eq_add_of_le' (show 1 ≤ fuel by omega)
  simp only [List.append_assoc, List.cons_append]
  have stop : EndsNumber (',' :: (ds ++ rest)) :=
    endsNumber_cons (by decide) (by decide) (by decide) (by decide)
  exact (ItemsRead.more (h _ fuel stop (by omega)) (skipBlanks_cons rfl)
    (others rest fuel (by omega))).readItems

theorem readName_writeName (name : JsonName) (enough : (writeName name).length ≤ fuel + 1) :
    readText fuel ((writeName name).tail ++ rest) = some (name, rest) := by
  cases name with
  | none => exact readText_loneSurrogate enough
  | some s => exact readText_writeText s enough

theorem writeName_start (name : JsonName) : writeName name = '"' :: (writeName name).tail := by
  cases name <;> rfl

theorem Spells.member (h : Spells cs v) (blank : skipBlanks g = []) (name : JsonName) :
    SpellsMember (g ++ writeName name ++ ':' :: cs) (name, v) := by
  intro rest fuel stop enough
  simp only [List.length_append, List.length_cons] at enough
  refine ⟨(writeName name).tail ++ (':' :: (cs ++ rest)), ':' :: (cs ++ rest), cs ++ rest, ?_,
    readName_writeName name (by omega), rfl, h rest fuel stop (by omega)⟩
  rw [List.append_assoc, List.append_assoc, skipBlanks_append blank, writeName_start name,
    List.cons_append, skipBlanks_cons rfl, List.tail_cons, List.cons_append]

theorem SpellsMembers.last (h : SpellsMember cs m) (blank : skipBlanks g = []) :
    SpellsMembers (cs ++ (g ++ ['}'])) [m] := by
  intro rest fuel enough
  simp only [List.length_append, List.length_singleton] at enough
  obtain ⟨fuel, rfl⟩ := Nat.exists_eq_add_of_le' (show 1 ≤ fuel by omega)
  simp only [List.append_assoc, List.singleton_append]
  have stop : EndsNumber (g ++ '}' :: rest) :=
    endsNumber_blanks blank (endsNumber_cons (by decide) (by decide) (by decide) (by decide))
  exact (MembersRead.last (h _ fuel stop (by omega)) (skipBlanks_mark blank rfl)).readMembers

theorem SpellsMembers.more (h : SpellsMember cs m) (others : SpellsMembers ds ms) :
    SpellsMembers (cs ++ ',' :: ds) (m :: ms) := by
  intro rest fuel enough
  simp only [List.length_append, List.length_cons] at enough
  obtain ⟨fuel, rfl⟩ := Nat.exists_eq_add_of_le' (show 1 ≤ fuel by omega)
  simp only [List.append_assoc, List.cons_append]
  have stop : EndsNumber (',' :: (ds ++ rest)) :=
    endsNumber_cons (by decide) (by decide) (by decide) (by decide)
  exact (MembersRead.more (h _ fuel stop (by omega)) (skipBlanks_cons rfl)
    (others rest fuel (by omega))).readMembers

/-! ### Arrays and objects -/

theorem readItems_skipBlanks (fuel : Nat) (cs : List Char) :
    readItems fuel (skipBlanks cs) = readItems fuel cs := by
  cases fuel with
  | zero => rfl
  | succ fuel => simp only [readItems, readValue_skipBlanks]

theorem readMembers_skipBlanks (fuel : Nat) (cs : List Char) :
    readMembers fuel (skipBlanks cs) = readMembers fuel cs := by
  have twice : skipBlanks (skipBlanks cs) = skipBlanks cs := List.dropWhile_idempotent ..
  cases fuel with
  | zero => rfl
  | succ fuel => simp only [readMembers, twice]

/-- No value begins with a closing bracket. -/
theorem readItems_ne_close (h : readItems fuel cs = (vs, some rest)) (r : List Char) :
    skipBlanks cs ≠ ']' :: r := by
  have value {v : Json} {fuel : Nat} {rest : List Char} (read : readValue fuel cs = (v, some rest))
      (close : skipBlanks cs = ']' :: r) : False := by
    cases fuel with
    | zero => cases read
    | succ fuel =>
        cases readValue_cases read with
        | number digits =>
            rw [close, readNumber_eq_none (by decide) (by decide)] at digits
            cases digits
        | _ start => cases close.symm.trans start
  cases fuel with
  | zero => cases h
  | succ fuel =>
      cases readItems_cases h with
      | last read | more read => exact value read

theorem readMembers_ne_close (h : readMembers fuel cs = (ms, some rest)) (r : List Char) :
    skipBlanks cs ≠ '}' :: r := by
  intro close
  have member {rest name v fuel} (read : MemberRead fuel cs rest name v) : False := by
    obtain ⟨inner, _, _, start, _⟩ := read.read
    cases close.symm.trans start
  cases fuel with
  | zero => cases h
  | succ fuel =>
      cases readMembers_cases h with
      | last first | more first => exact member first

theorem SpellsItems.array (h : SpellsItems cs vs) : Spells ('[' :: cs) (.array vs) := by
  intro rest fuel _ enough
  rw [List.length_cons] at enough
  obtain ⟨fuel, rfl⟩ := Nat.exists_eq_add_of_le' (show 1 ≤ fuel by omega)
  have read := h rest fuel (by omega)
  exact (ValueRead.array (skipBlanks_cons rfl) (readItems_ne_close read)
    ((readItems_skipBlanks fuel _).trans read)).readValue

theorem SpellsMembers.object (h : SpellsMembers cs ms) : Spells ('{' :: cs) (.object ms) := by
  intro rest fuel _ enough
  rw [List.length_cons] at enough
  obtain ⟨fuel, rfl⟩ := Nat.exists_eq_add_of_le' (show 1 ≤ fuel by omega)
  have read := h rest fuel (by omega)
  exact (ValueRead.object (skipBlanks_cons rfl) (readMembers_ne_close read)
    ((readMembers_skipBlanks fuel _).trans read)).readValue

/-! ### What is written is read -/

/-- A value that a text can spell. -/
inductive Legible : Json → Prop
  | null : Legible .null
  | bool (b : Bool) : Legible (.bool b)
  | number {n : JsonNumber} (decimal : ∀ d ∈ n.fraction, d < 10) : Legible (.number n)
  | text (s : String) : Legible (.text s)
  | loneSurrogate : Legible .loneSurrogate
  | array {vs : List Json} (items : ∀ v ∈ vs, Legible v) : Legible (.array vs)
  | object {ms : List (JsonName × Json)} (members : ∀ m ∈ ms, Legible m.2) : Legible (.object ms)

theorem spells_number {n : JsonNumber} (decimal : ∀ d ∈ n.fraction, d < 10) :
    Spells n.write (.number n) := by
  intro rest fuel stop enough
  have read := readNumber_append decimal stop
  have start : ∃ c r, n.write = c :: r ∧ isBlank c = false := by
    rw [write_number]
    cases n.negative with
    | true => exact ⟨'-', _, rfl, rfl⟩
    | false =>
        cases hds : Nat.toDigits 10 n.whole with
        | nil => exact absurd hds Nat.toDigits_ne_nil
        | cons d ds =>
            have digit := isDigit_toDigits n.whole d (by rw [hds]; exact List.mem_cons_self)
            refine ⟨d, _, rfl, ?_⟩
            by_contra blank
            simp only [isBlank, Bool.not_eq_false, Bool.or_eq_true, decide_eq_true_eq] at blank
            rcases blank with ((rfl | rfl) | rfl) | rfl <;> cases digit
  obtain ⟨c, r, written, mark⟩ := start
  rw [written, List.length_cons] at enough
  obtain ⟨fuel, rfl⟩ := Nat.exists_eq_add_of_le' (show 1 ≤ fuel by omega)
  refine (ValueRead.number ?_).readValue
  rw [← read, written, List.cons_append, skipBlanks_cons mark]

theorem spells_text (s : String) : Spells (writeText s) (.text s) := by
  intro rest fuel _ enough
  have length := length_writeText s
  obtain ⟨fuel, rfl⟩ := Nat.exists_eq_add_of_le' (show 1 ≤ fuel by omega)
  exact (ValueRead.text (skipBlanks_cons rfl) (readText_writeText s (by omega))).readValue

theorem spells_loneSurrogate : Spells loneSurrogateText .loneSurrogate := by
  intro rest fuel _ enough
  change 16 ≤ fuel at enough
  obtain ⟨fuel, rfl⟩ := Nat.exists_eq_add_of_le' (show 1 ≤ fuel by omega)
  refine (ValueRead.loneSurrogate (skipBlanks_cons rfl) (readText_loneSurrogate ?_)).readValue
  change 8 ≤ fuel + 1
  omega

theorem spells_literal {v : Json} (read : ∀ fuel rest, readValue (fuel + 1) (cs ++ rest) = (v, some rest))
    (some : cs ≠ []) : Spells cs v := by
  intro rest fuel _ enough
  have pos := List.length_pos_iff.2 some
  obtain ⟨fuel, rfl⟩ := Nat.exists_eq_add_of_le' (show 1 ≤ fuel by omega)
  exact read fuel rest

theorem spells_empty (v : Json) (h : v = .array [] ∨ v = .object []) : Spells (write v) v := by
  rcases h with rfl | rfl
  · exact spells_literal (fun _ _ => rfl) (by decide)
  · exact spells_literal (fun _ _ => rfl) (by decide)

theorem spellsItems_write (items : ∀ v ∈ vs, Spells (write v) v) (h : Spells cs v) :
    SpellsItems (cs ++ writeMoreItems vs) (v :: vs) := by
  induction vs generalizing cs v with
  | nil => exact .last (g := []) h rfl
  | cons w vs ih =>
      obtain ⟨first, rest⟩ := List.forall_mem_cons.1 items
      exact .more h (ih rest first)

theorem spellsMembers_write (members : ∀ m ∈ ms, Spells (write m.2) m.2) (h : SpellsMember cs m) :
    SpellsMembers (cs ++ writeMoreMembers ms) (m :: ms) := by
  induction ms generalizing cs m with
  | nil => exact .last (g := []) h rfl
  | cons next ms ih =>
      obtain ⟨first, rest⟩ := List.forall_mem_cons.1 members
      exact .more h (ih rest (first.member (g := []) rfl next.1))

/-- A compact text is read as the value that it was written for. -/
theorem Legible.spells (h : Legible v) : Spells (write v) v := by
  induction h with
  | null => exact spells_literal (fun _ _ => rfl) (by decide)
  | bool b => cases b <;> exact spells_literal (fun _ _ => rfl) (by decide)
  | number decimal => exact spells_number decimal
  | text s => exact spells_text s
  | loneSurrogate => exact spells_loneSurrogate
  | @array vs items ih =>
      cases vs with
      | nil => exact spells_empty _ (.inl rfl)
      | cons v vs =>
          obtain ⟨first, rest⟩ := List.forall_mem_cons.1 ih
          exact (spellsItems_write rest first).array
  | @object ms members ih =>
      cases ms with
      | nil => exact spells_empty _ (.inr rfl)
      | cons m ms =>
          obtain ⟨first, rest⟩ := List.forall_mem_cons.1 ih
          exact (spellsMembers_write rest (first.member (g := []) rfl m.1)).object

theorem blank_newLine (depth : Nat) : skipBlanks (newLine depth) = [] := by
  rw [skipBlanks, List.dropWhile_eq_nil_iff, newLine, List.forall_mem_cons]
  refine ⟨rfl, fun c hc => ?_⟩
  rw [List.eq_of_mem_replicate hc]
  rfl

theorem spellsItems_pretty {depth : Nat} (items : ∀ v ∈ vs, Spells (writePretty depth v) v)
    (blank : skipBlanks g = []) (h : Spells cs v) :
    SpellsItems (cs ++ (prettyMoreItems depth vs ++ (g ++ [']']))) (v :: vs) := by
  induction vs generalizing cs v with
  | nil => exact .last h blank
  | cons w vs ih =>
      obtain ⟨first, rest⟩ := List.forall_mem_cons.1 items
      have next := ih rest (first.blanks (blank_newLine depth))
      rw [← List.append_assoc] at next
      exact .more h next

theorem spellsMembers_pretty {depth : Nat}
    (members : ∀ m ∈ ms, Spells (writePretty depth m.2) m.2) (blank : skipBlanks g = [])
    (h : SpellsMember cs m) :
    SpellsMembers (cs ++ (prettyMoreMembers depth ms ++ (g ++ ['}']))) (m :: ms) := by
  induction ms generalizing cs m with
  | nil => exact .last h blank
  | cons w ms ih =>
      obtain ⟨first, rest⟩ := List.forall_mem_cons.1 members
      have next := ih rest ((first.blanks (g := [' ']) rfl).member (blank_newLine depth) w.1)
      rw [← List.append_assoc] at next
      exact .more h next

/-- So is a text that is set out over several lines. -/
theorem Legible.spells_pretty (h : Legible v) (depth : Nat) : Spells (writePretty depth v) v := by
  induction h generalizing depth with
  | null => exact Legible.null.spells
  | bool b => exact (Legible.bool b).spells
  | number decimal => exact spells_number decimal
  | text s => exact spells_text s
  | loneSurrogate => exact spells_loneSurrogate
  | @array vs items ih =>
      cases vs with
      | nil => exact spells_empty _ (.inl rfl)
      | cons v vs =>
          obtain ⟨first, rest⟩ := List.forall_mem_cons.1 ih
          have spelled := spellsItems_pretty (fun w hw => rest w hw (depth + 1)) (blank_newLine depth)
            ((first (depth + 1)).blanks (blank_newLine (depth + 1)))
          simpa only [writePretty, prettyItems, List.append_assoc, List.cons_append] using spelled.array
  | @object ms members ih =>
      cases ms with
      | nil => exact spells_empty _ (.inr rfl)
      | cons m ms =>
          obtain ⟨first, rest⟩ := List.forall_mem_cons.1 ih
          have spelled := spellsMembers_pretty (fun w hw => rest w hw (depth + 1))
            (blank_newLine depth) (((first (depth + 1)).blanks (g := [' ']) rfl).member
              (blank_newLine (depth + 1)) m.1)
          simpa only [writePretty, prettyMembers, List.append_assoc, List.cons_append,
            List.nil_append] using spelled.object

theorem Spells.read (h : Spells cs v) : read (.ofList cs) = ⟨v, true⟩ := by
  have whole := h [] (2 * cs.length + 2) endsNumber_nil (by omega)
  rw [List.append_nil] at whole
  rw [read_ofList, whole]
  rfl

theorem read_compress (h : Legible v) : read v.compress = ⟨v, true⟩ := h.spells.read

theorem read_pretty (h : Legible v) : read v.pretty = ⟨v, true⟩ := (h.spells_pretty 0).read

end BuildAdmission.Json
