import BuildAdmission.Codec.Record
import BuildAdmission.Proofs.Codec.Basic

namespace BuildAdmission

/-- The values of a field are faithful, and one that is not written is the one that is filled in. -/
structure Field.Faithful {α : Type} (field : Field α) : Prop where
  codec : field.codec.Faithful
  hidden : ∀ a, field.hidden a = true → field.fallback = some a

/-- The value as it is read back if it is written. -/
def Field.reread {α : Type} (field : Field α) (a : α) : Except DecodeError α :=
  if field.hidden a then .ok a else field.codec.decode (field.codec.encode a)

namespace Fields

variable {α β : Type} {fs : Fields α} {rest : Fields β} {field : Field α} {codec : Codec α}
  {name : String} {slots : rest.Slots} {ms : List (JsonName × Json)}

def names : {α : Type} → Fields α → List String
  | _, .nil => []
  | _, .cons field rest => field.name :: rest.names

/-- No two fields have one name, and a value that is not written is the one that is filled in. -/
inductive Sound : {α : Type} → Fields α → Prop
  | nil : Sound .nil
  | cons {α β : Type} {field : Field α} {rest : Fields β}
      (hidden : ∀ a, field.hidden a = true → field.fallback = some a)
      (fresh : field.name ∉ rest.names) (others : Sound rest) : Sound (.cons field rest)

/-- No two fields have one name. -/
inductive Faithful : {α : Type} → Fields α → Prop
  | nil : Faithful .nil
  | cons {α β : Type} {field : Field α} {rest : Fields β} (field_faithful : field.Faithful)
      (fresh : field.name ∉ rest.names) (others : Faithful rest) : Faithful (.cons field rest)

theorem Faithful.sound (h : fs.Faithful) : fs.Sound := by
  induction h with
  | nil => exact .nil
  | cons field_faithful fresh _ ih => exact .cons field_faithful.hidden fresh ih

/-! ### The kinds of fields -/

theorem Sound.required (fresh : name ∉ rest.names) (others : rest.Sound) :
    (Fields.required name codec rest).Sound :=
  .cons nofun fresh others

theorem Faithful.required (h : codec.Faithful) (fresh : name ∉ rest.names)
    (others : rest.Faithful) : (Fields.required name codec rest).Faithful :=
  .cons ⟨h, nofun⟩ fresh others

theorem Faithful.optional {fallback : α} (h : codec.Faithful) (fresh : name ∉ rest.names)
    (others : rest.Faithful) : (Fields.optional name codec fallback rest).Faithful :=
  .cons ⟨h, nofun⟩ fresh others

theorem Faithful.nullable (h : codec.Faithful) (present : ∀ a, codec.encode a ≠ .null)
    (fresh : name ∉ rest.names) (others : rest.Faithful) :
    (Fields.nullable name codec rest).Faithful :=
  .cons ⟨Codec.option_faithful h present, nofun⟩ fresh others

theorem Faithful.sparse [DecidableEq α] {fallback : α} (h : codec.Faithful)
    (fresh : name ∉ rest.names) (others : rest.Faithful) :
    (Fields.sparse name codec fallback rest).Faithful :=
  .cons ⟨h, fun _ same => congrArg some (of_decide_eq_true same).symm⟩ fresh others

/-! ### Members -/

theorem name_mem_of_mem_toMembers {a : α} {m : JsonName × Json} (h : m ∈ fs.toMembers a) :
    ∃ name ∈ fs.names, m.1 = some name := by
  induction fs with
  | nil => cases h
  | cons field rest ih =>
      obtain ⟨a, b⟩ := a
      rw [toMembers] at h
      have later (h : m ∈ rest.toMembers b) : ∃ name ∈ (Fields.cons field rest).names, m.1 = some name :=
        (ih h).imp fun _ found => ⟨List.mem_cons_of_mem _ found.1, found.2⟩
      split at h
      · exact later h
      · rcases List.mem_cons.1 h with rfl | h
        · exact ⟨field.name, List.mem_cons_self, rfl⟩
        · exact later h

theorem Faithful.legible (h : fs.Faithful) (a : α) : ∀ m ∈ fs.toMembers a, m.2.Legible := by
  induction h with
  | nil => exact nofun
  | cons field_faithful _ _ ih =>
      obtain ⟨a, b⟩ := a
      rw [toMembers]
      split
      · exact ih b
      · exact List.forall_mem_cons.2 ⟨field_faithful.codec.legible a, ih b⟩

/-- Members of other names leave the slot of a field as it is. -/
theorem fillAll_rest (slot : Option α) (other : ∀ m ∈ ms, m.1 ≠ some field.name) :
    (Fields.cons field rest).fillAll (slot, slots) ms =
      (rest.fillAll slots ms).map fun filled => (slot, filled) := by
  induction ms generalizing slots with
  | nil => rfl
  | cons m ms ih =>
      obtain ⟨different, others⟩ := List.forall_mem_cons.1 other
      obtain ⟨name, v⟩ := m
      cases name with
      | none => rfl
      | some name =>
          have apart : name ≠ field.name := fun same => different (congrArg some same)
          simp only [fillAll, fill, if_neg apart]
          cases rest.fill slots name v with
          | error e => rfl
          | ok filled =>
              cases filled with
              | none =>
                  change (if v.isWhole = true then (Fields.cons field rest).fillAll (slot, slots) ms
                    else .error .malformed) = Except.map _ (if v.isWhole = true then
                      rest.fillAll slots ms else .error .malformed)
                  split
                  · exact ih others
                  · rfl
              | some filled => exact ih others

/-! ### A record that is read back -/

def reread : {α : Type} → (fs : Fields α) → α → Except DecodeError α
  | _, .nil, _ => .ok ()
  | _, .cons field rest, (a, b) => do
    let a ← field.reread a
    (rest.reread b).map (a, ·)

theorem reread_required (a : α) (b : β) : (Fields.required name codec rest).reread (a, b) =
    codec.decode (codec.encode a) >>= fun a => (rest.reread b).map (a, ·) := rfl

theorem reread_faithful (h : codec.Faithful) (a : α) (b : β) :
    (Fields.required name codec rest).reread (a, b) = (rest.reread b).map (a, ·) := by
  rw [reread_required, h.lossless]
  rfl

/-- The slots after the record `a` is read as `a'`: those of hidden values are left free. -/
def filled : {α : Type} → (fs : Fields α) → α → α → fs.Slots
  | _, .nil, _, _ => ()
  | _, .cons field rest, (a, b), (a', b') =>
    (if field.hidden a then none else some a', rest.filled b b')

theorem Sound.fillAll (h : fs.Sound) (a : α) :
    fs.fillAll fs.blank (fs.toMembers a) = (fs.reread a).map (fs.filled a) := by
  induction h with
  | nil => rfl
  | @cons α β field rest _ fresh _ ih =>
      obtain ⟨a, b⟩ := a
      have other : ∀ m ∈ rest.toMembers b, m.1 ≠ some field.name := by
        intro m hm same
        obtain ⟨name, listed, named⟩ := name_mem_of_mem_toMembers hm
        exact fresh (Option.some.inj (same.symm.trans named) ▸ listed)
      have others (slot : Option α) :
          (Fields.cons field rest).fillAll (slot, rest.blank) (rest.toMembers b) =
            (rest.reread b).map fun b' => (slot, rest.filled b b') := by
        rw [fillAll_rest slot other, ih b, Except.map_map]
        rfl
      have slots (a' : α) : (Fields.cons field rest).filled (a, b) ∘ (a', ·) = fun b' =>
          (if field.hidden a = true then none else some a', rest.filled b b') := rfl
      rw [toMembers, reread, Field.reread, blank]
      by_cases hidden : field.hidden a = true
      · rw [if_pos hidden, if_pos hidden, others, Except.ok_bind, Except.map_map, slots,
          if_pos hidden]
        rfl
      · rw [if_neg hidden, if_neg hidden]
        simp only [Fields.fillAll, fill, if_true, Option.isSome_none, Bool.false_eq_true, if_false]
        cases field.codec.decode (field.codec.encode a) with
        | error e => rfl
        | ok a' =>
            refine (others (some a')).trans ?_
            rw [Except.ok_bind, Except.map_map, slots, if_neg hidden]
            rfl

theorem Sound.finish (h : fs.Sound) {a a' : α} (read : fs.reread a = .ok a') :
    fs.finish (fs.filled a a') = .ok a' := by
  induction h with
  | nil => rfl
  | @cons α β field rest fills _ _ ih =>
      obtain ⟨a, b⟩ := a
      rw [reread] at read
      obtain ⟨value, first, others⟩ := Except.bind_eq_ok_iff.1 read
      obtain ⟨b', rest_read, rfl⟩ := Except.map_eq_ok_iff.1 others
      have slot : (if field.hidden a = true then none else some value).or field.fallback =
          some value := by
        rw [Field.reread] at first
        split at first
        · next hidden =>
          cases first
          rw [if_pos hidden]
          exact fills a hidden
        · next shown =>
          rw [if_neg shown]
          rfl
      simp only [filled, Fields.finish, slot, ih rest_read]
      rfl

/-- A record that is written is read as each of its values is. -/
theorem Sound.ofMembers (h : fs.Sound) (a : α) : fs.ofMembers (fs.toMembers a) = fs.reread a := by
  rw [Fields.ofMembers, h.fillAll]
  cases read : fs.reread a with
  | error e => rfl
  | ok a' => exact h.finish read

theorem Faithful.reread (h : fs.Faithful) (a : α) : fs.reread a = .ok a := by
  induction h with
  | nil => rfl
  | cons field_faithful _ _ ih =>
      obtain ⟨a, b⟩ := a
      rw [Fields.reread, Field.reread, field_faithful.codec.lossless a, ite_self, Except.ok_bind,
        ih b]
      rfl

theorem Faithful.ofMembers (h : fs.Faithful) (a : α) : fs.ofMembers (fs.toMembers a) = .ok a :=
  (h.sound.ofMembers a).trans (h.reread a)

end Fields

theorem Codec.record_faithful {α : Type} {fs : Fields α} (h : fs.Faithful) :
    (Codec.record fs).Faithful where
  lossless := h.ofMembers
  legible a := .object (h.legible a)

end BuildAdmission
