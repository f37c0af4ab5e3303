import BuildAdmission.Proofs.Json.Reader

namespace BuildAdmission.Json

variable {cs rest x r w : List Char} {c : Char} {fuel : Nat}

/-- Between the two places stands no opening brace. -/
def Braceless (cs rest : List Char) : Prop := ∃ q, cs = q ++ rest ∧ '{' ∉ q

theorem Braceless.refl (cs : List Char) : Braceless cs cs := ⟨[], rfl, List.not_mem_nil⟩

theorem Braceless.trans (h : Braceless cs rest) (h' : Braceless rest r) : Braceless cs r := by
  obtain ⟨q, rfl, hq⟩ := h
  obtain ⟨q', rfl, hq'⟩ := h'
  refine ⟨q ++ q', (List.append_assoc ..).symm, ?_⟩
  rw [List.mem_append]
  exact not_or.2 ⟨hq, hq'⟩

theorem Braceless.cons (h : Braceless cs rest) (hc : c ≠ '{') : Braceless (c :: cs) rest := by
  obtain ⟨q, rfl, hq⟩ := h
  exact ⟨c :: q, rfl, by simpa using ⟨hc.symm, hq⟩⟩

theorem Braceless.suffix (h : Braceless (x ++ '{' :: r) rest) : ∃ y, rest = y ++ '{' :: r := by
  obtain ⟨q, he, hq⟩ := h
  rcases List.append_eq_append_iff.1 he with ⟨as, rfl, h⟩ | ⟨bs, rfl, h⟩
  · cases as with
    | nil => exact ⟨[], h.symm⟩
    | cons a as =>
        obtain ⟨rfl, _⟩ := List.cons.inj h
        simp at hq
  · exact ⟨bs, h⟩

/-! ### Numbers -/

theorem braceless_spanDigits (cs : List Char) : Braceless cs (spanDigits cs).2 := by
  refine ⟨cs.takeWhile Char.isDigit, (List.takeWhile_append_dropWhile ..).symm, ?_⟩
  intro h
  have digit := List.mem_takeWhile_imp h
  cases digit

theorem braceless_readWhole {n : Nat} (h : readWhole cs = some (n, rest)) : Braceless cs rest := by
  have digits := braceless_spanDigits cs
  unfold readWhole at h
  split at h
  · cases h
  · next hs =>
    cases h
    rwa [hs] at digits
  · cases h
  · next hs =>
    cases h
    rwa [hs] at digits

theorem braceless_readFraction {ds : List Nat} (h : readFraction cs = some (ds, rest)) :
    Braceless cs rest := by
  unfold readFraction at h
  split at h
  · next cs =>
    have digits := braceless_spanDigits cs
    split at h
    · cases h
    · next hs =>
      cases h
      rw [hs] at digits
      exact digits.cons (by decide)
  · cases h
    exact .refl _

theorem braceless_readExponentDigits {sign : Int} {e : Option Int}
    (h : readExponentDigits sign cs = some (e, rest)) : Braceless cs rest := by
  have digits := braceless_spanDigits cs
  unfold readExponentDigits at h
  split at h
  · cases h
  · next hs =>
    cases h
    rwa [hs] at digits

theorem braceless_readExponentSign {e : Option Int} (h : readExponentSign cs = some (e, rest)) :
    Braceless cs rest := by
  unfold readExponentSign at h
  split at h
  · exact (braceless_readExponentDigits h).cons (by decide)
  · exact (braceless_readExponentDigits h).cons (by decide)
  · exact braceless_readExponentDigits h

theorem braceless_readExponent {e : Option Int} (h : readExponent cs = some (e, rest)) :
    Braceless cs rest := by
  unfold readExponent at h
  split at h
  · exact (braceless_readExponentSign h).cons (by decide)
  · exact (braceless_readExponentSign h).cons (by decide)
  · cases h
    exact .refl _

theorem braceless_readUnsigned {negative : Bool} {n : JsonNumber}
    (h : readUnsigned negative cs = some (n, rest)) : Braceless cs rest := by
  obtain ⟨⟨whole, cs₁⟩, hwhole, h⟩ := Option.bind_eq_some_iff.1 h
  obtain ⟨⟨fraction, cs₂⟩, hfraction, h⟩ := Option.bind_eq_some_iff.1 h
  obtain ⟨⟨exponent, cs₃⟩, hexponent, h⟩ := Option.bind_eq_some_iff.1 h
  cases h
  exact (braceless_readWhole hwhole).trans
    ((braceless_readFraction hfraction).trans (braceless_readExponent hexponent))

theorem braceless_readNumber {n : JsonNumber} (h : readNumber cs = some (n, rest)) :
    Braceless cs rest := by
  unfold readNumber at h
  split at h
  · exact (braceless_readUnsigned h).cons (by decide)
  · exact braceless_readUnsigned h

/-! ### Texts -/

theorem ne_brace_of_hexValue {n : Nat} (h : hexValue c = some n) : c ≠ '{' := by
  rintro rfl
  cases h

theorem readPiece_brace {p : Piece} (h : readPiece cs = some (p, rest)) :
    p = .char '{' ∧ cs = '{' :: rest ∨ Braceless cs rest := by
  unfold readPiece at h
  split at h
  · cases h
    exact .inr ((Braceless.refl _).cons (by decide))
  · next a b c d cs =>
    obtain ⟨n, hn, h⟩ := Option.bind_eq_some_iff.1 h
    obtain ⟨na, ha, hn⟩ := Option.bind_eq_some_iff.1 hn
    obtain ⟨nb, hb, hn⟩ := Option.bind_eq_some_iff.1 hn
    obtain ⟨nc, hc, hn⟩ := Option.bind_eq_some_iff.1 hn
    obtain ⟨nd, hd, _⟩ := Option.bind_eq_some_iff.1 hn
    have digits : Braceless ('\\' :: 'u' :: a :: b :: c :: d :: cs) cs :=
      .cons (.cons (.cons (.cons (.cons (.cons (.refl cs) (ne_brace_of_hexValue hd))
        (ne_brace_of_hexValue hc)) (ne_brace_of_hexValue hb)) (ne_brace_of_hexValue ha))
        (by decide)) (by decide)
    split at h
    · cases h
      exact .inr digits
    · cases h
      exact .inr digits
  · next e cs _ =>
    obtain ⟨c, hc, he⟩ := Option.map_eq_some_iff.1 h
    cases he
    have hne : e ≠ '{' := by
      rintro rfl
      cases hc
    exact .inr (((Braceless.refl _).cons hne).cons (by decide))
  · cases h
  · next c _ _ _ _ _ =>
    split at h
    · cases h
    · cases h
      by_cases hc : c = '{'
      · subst hc
        exact .inl ⟨rfl, rfl⟩
      · exact .inr ((Braceless.refl _).cons hc)
  · cases h

section

variable (hw : w = '{' :: '"' :: 'u' :: r)
include hw

/-- A text that is open where the object begins ends before its first name. -/
theorem readPieces_torn {ps : List Piece} (h : readPieces fuel (x ++ w) = some (ps, rest)) :
    (∃ y, rest = y ++ w) ∨ rest = 'u' :: r := by
  induction fuel generalizing x ps rest with
  | zero => cases h
  | succ fuel ih =>
      obtain ⟨⟨p, r₁⟩, hp, h⟩ := Option.bind_eq_some_iff.1 h
      rcases readPiece_brace hp with ⟨rfl, hcs⟩ | hcs
      · obtain ⟨⟨qs, r₂⟩, hrest, h⟩ := Option.bind_eq_some_iff.1 h
        cases h
        cases x with
        | nil =>
            -- the text goes on with the quote of the name, which ends it
            subst hw
            cases hcs
            cases fuel with
            | zero => cases hrest
            | succ fuel =>
                cases hrest
                exact .inr rfl
        | cons c x =>
            obtain ⟨_, rfl⟩ := List.cons.inj hcs
            exact ih hrest
      · obtain ⟨y, rfl⟩ : ∃ y, r₁ = y ++ w := by
          rw [hw] at hcs ⊢
          exact hcs.suffix
        cases p with
        | stop =>
            cases h
            exact .inl ⟨y, rfl⟩
        | char c =>
            obtain ⟨⟨qs, r₂⟩, hrest, h⟩ := Option.bind_eq_some_iff.1 h
            cases h
            exact ih hrest
        | half n =>
            obtain ⟨⟨qs, r₂⟩, hrest, h⟩ := Option.bind_eq_some_iff.1 h
            cases h
            exact ih hrest

theorem readText_torn {s : Option String} (h : readText fuel (x ++ w) = some (s, rest)) :
    (∃ y, rest = y ++ w) ∨ rest = 'u' :: r := by
  obtain ⟨⟨ps, r₁⟩, hps, h⟩ := Option.bind_eq_some_iff.1 h
  cases h
  exact readPieces_torn hw hps

/-! ### Values -/

theorem skipBlanks_torn (x : List Char) : skipBlanks (x ++ w) = skipBlanks x ++ w := by
  subst hw
  unfold skipBlanks
  rw [List.dropWhile_append]
  split
  · next h => rw [List.isEmpty_iff.1 h]; rfl
  · rfl

/-- What stands before the object still has it to come behind its first character. -/
theorem before_torn (hx : skipBlanks (x ++ w) = c :: rest) (hc : c ≠ '{' ∨ skipBlanks x ≠ []) :
    ∃ y, rest = y ++ w := by
  rw [skipBlanks_torn hw] at hx
  cases hy : skipBlanks x with
  | nil =>
      subst hw
      rw [hy] at hx
      cases hx
      rcases hc with hc | hc
      · exact absurd rfl hc
      · exact absurd hy hc
  | cons b y =>
      rw [hy] at hx
      obtain ⟨_, rfl⟩ := List.cons.inj hx
      exact ⟨y, rfl⟩

/-- Behind the object nothing is left but blanks, and in its first name stands no mark. -/
theorem marked_torn {r₁ : List Char} (h : (∃ y, rest = y ++ w) ∨ rest = 'u' :: r ∨ skipBlanks rest = [])
    (mark : skipBlanks rest = c :: r₁) (hc : c ≠ '{') (hu : c ≠ 'u') : ∃ y, r₁ = y ++ w := by
  rcases h with ⟨y, rfl⟩ | rfl | blank
  · exact before_torn hw mark (.inl hc)
  · cases mark
    exact absurd rfl hu
  · rw [blank] at mark
    cases mark

variable (complete : ∃ fuel v rest, readValue fuel w = (v, some rest) ∧ skipBlanks rest = [])
include complete

/-- What begins before an object and is read to its end leaves off before the object or in its
first name, unless only blanks stand before it. -/
theorem read_torn (fuel : Nat) :
    (∀ x rest v, readValue fuel (x ++ w) = (v, some rest) →
      (∃ y, rest = y ++ w) ∨ rest = 'u' :: r ∨ skipBlanks x = [] ∧ skipBlanks rest = []) ∧
    (∀ x rest vs, readItems fuel (x ++ w) = (vs, some rest) → ∃ y, rest = y ++ w) ∧
    (∀ x rest ms, readMembers fuel (x ++ w) = (ms, some rest) → ∃ y, rest = y ++ w) := by
  induction fuel with
  | zero =>
      refine ⟨?_, ?_, ?_⟩
      · intro x rest v h
        cases h
      · intro x rest vs h
        cases h
      · intro x rest ms h
        cases h
  | succ fuel ih =>
      obtain ⟨value, items, members⟩ := ih
      have behind {x rest r₁ v c} (read : readValue fuel (x ++ w) = (v, some rest))
          (mark : skipBlanks rest = c :: r₁) (hc : c ≠ '{') (hu : c ≠ 'u') : ∃ y, r₁ = y ++ w :=
        marked_torn hw ((value x rest v read).imp_right (.imp_right And.right)) mark hc hu
      have member {x rest name v} (h : MemberRead fuel (x ++ w) rest name v) :
          ∃ y, readValue fuel (y ++ w) = (v, some rest) := by
        obtain ⟨inner, r₁, r₂, start, text, colon, read⟩ := h.read
        obtain ⟨y, rfl⟩ := before_torn hw start (.inl (by decide))
        obtain ⟨y₂, rfl⟩ := marked_torn hw ((readText_torn hw text).imp_right .inl) colon
          (by decide) (by decide)
        exact ⟨y₂, read⟩
      refine ⟨?_, ?_, ?_⟩
      · intro x rest v h
        by_cases hx : skipBlanks x = []
        · obtain ⟨fuel₀, v₀, rest₀, read, blank⟩ := complete
          rw [← readValue_skipBlanks, skipBlanks_torn hw, hx, List.nil_append] at h
          obtain ⟨_, rfl⟩ := readValue_unique h read
          exact .inr (.inr ⟨hx, blank⟩)
        · have ahead {c inner} (start : skipBlanks (x ++ w) = c :: inner) : ∃ y, inner = y ++ w :=
            before_torn hw start (.inr hx)
          have clear (h : Braceless (skipBlanks (x ++ w)) rest) : ∃ y, rest = y ++ w := by
            rw [skipBlanks_torn hw, hw] at h
            rw [hw]
            exact h.suffix
          cases readValue_cases h with
          | literalNull start => exact .inl (clear ⟨['n', 'u', 'l', 'l'], start, by decide⟩)
          | literalTrue start => exact .inl (clear ⟨['t', 'r', 'u', 'e'], start, by decide⟩)
          | literalFalse start => exact .inl (clear ⟨['f', 'a', 'l', 's', 'e'], start, by decide⟩)
          | text start read =>
              obtain ⟨y, rfl⟩ := ahead start
              exact (readText_torn hw read).imp_right .inl
          | loneSurrogate start read =>
              obtain ⟨y, rfl⟩ := ahead start
              exact (readText_torn hw read).imp_right .inl
          | emptyArray start close =>
              obtain ⟨y, rfl⟩ := ahead start
              exact .inl (before_torn hw close (.inl (by decide)))
          | array start filled read =>
              obtain ⟨y, rfl⟩ := ahead start
              rw [skipBlanks_torn hw] at read
              exact .inl (items _ _ _ read)
          | emptyObject start close =>
              obtain ⟨y, rfl⟩ := ahead start
              exact .inl (before_torn hw close (.inl (by decide)))
          | object start filled read =>
              obtain ⟨y, rfl⟩ := ahead start
              rw [skipBlanks_torn hw] at read
              exact .inl (members _ _ _ read)
          | number read => exact .inl (clear (braceless_readNumber read))
      · intro x rest vs h
        cases readItems_cases h with
        | last read close => exact behind read close (by decide) (by decide)
        | more read comma others =>
            obtain ⟨y, rfl⟩ := behind read comma (by decide) (by decide)
            exact items _ _ _ others
      · intro x rest ms h
        cases readMembers_cases h with
        | last first close =>
            obtain ⟨y, read⟩ := member first
            exact behind read close (by decide) (by decide)
        | more first comma others =>
            obtain ⟨y, read⟩ := member first
            obtain ⟨y₂, rfl⟩ := behind read comma (by decide) (by decide)
            exact members _ _ _ others

omit complete in
/-- What stands before an object on its line spoils it, unless it is blank. -/
theorem read_torn_complete (complete : (read (.ofList w)).complete = true)
    (hx : skipBlanks x ≠ []) : (read (.ofList (x ++ w))).complete = false := by
  rw [← Bool.not_eq_true, read_complete]
  rintro ⟨v, rest, hread, blank⟩
  obtain ⟨v₀, rest₀, hw₀⟩ := read_complete.1 complete
  rcases (read_torn hw ⟨_, v₀, rest₀, hw₀⟩ _).1 x rest v hread with ⟨y, rfl⟩ | rfl | ⟨hblank, _⟩
  · rw [skipBlanks_torn hw, hw] at blank
    exact absurd blank (by simp)
  · cases blank
  · exact hx hblank

end

end BuildAdmission.Json
