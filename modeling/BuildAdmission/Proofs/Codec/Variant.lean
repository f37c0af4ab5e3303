import BuildAdmission.Codec.Variant
import BuildAdmission.Proofs.Codec.Record
import BuildAdmission.Proofs.Decimal.Binary64

namespace BuildAdmission

/-! ### Values that can be held -/

namespace Json

theorem allHeld_iff {depth : Nat} {vs : List Json} :
    allHeld depth vs = true ↔ ∀ v ∈ vs, v.isHeld depth = true := by
  induction vs with
  | nil => simp [allHeld]
  | cons v vs ih => simp [allHeld, ih]

theorem membersHeld_iff {depth : Nat} {ms : List (JsonName × Json)} :
    membersHeld depth ms = true ↔ ∀ m ∈ ms, m.1.isSome = true ∧ m.2.isHeld depth = true := by
  induction ms with
  | nil => simp [membersHeld]
  | cons m ms ih => simp [membersHeld, ih, and_assoc]

theorem object_isHeld {depth : Nat} {ms : List (JsonName × Json)}
    (h : ∀ m ∈ ms, m.1.isSome = true ∧ m.2.isHeld depth = true) :
    (Json.object ms).isHeld (depth + 1) = true := by
  rw [isHeld]
  exact membersHeld_iff.2 h

end Json

namespace Codec

variable {α β : Type} {c : Codec α} {depth : Nat}

/-- Every value can be held apart from its text, within the depth. -/
def Held (depth : Nat) (c : Codec α) : Prop := ∀ a, (c.encode a).isHeld depth = true

theorem text_held : text.Held depth := fun _ => by rw [text, Json.isHeld]

theorem bool_held : bool.Held depth := fun _ => by rw [bool, Json.isHeld]

theorem uint64_held : uint64.Held depth := by
  intro n
  have whole : (JsonNumber.ofInt n.toNat).toBinary64?.isSome = true :=
    JsonNumber.ofInt_toBinary64?_isSome n.toNat_lt
  simpa [uint64, range, Json.int, Json.isHeld] using whole

theorem names_held [DecidableEq α] {name : α → String} {all : List α} :
    (names name all).Held depth := fun _ => by rw [names, Json.isHeld]

theorem list_held (h : c.Held depth) : c.list.Held (depth + 1) := by
  intro as
  rw [list, Json.isHeld, Json.allHeld_iff]
  intro v hv
  obtain ⟨a, _, rfl⟩ := List.mem_map.1 hv
  exact h a

theorem iso_held (h : c.Held depth) {f : α → β} {g : β → α} : (c.iso f g).Held depth :=
  fun b => h (g b)

end Codec

namespace Fields

variable {α β : Type} {fs : Fields α} {rest : Fields β} {field : Field α} {depth : Nat}

inductive Held (depth : Nat) : {α : Type} → Fields α → Prop
  | nil : Held depth .nil
  | cons {α β : Type} {field : Field α} {rest : Fields β} (field_held : field.codec.Held depth)
      (others : Held depth rest) : Held depth (.cons field rest)

theorem Held.members (h : fs.Held depth) (a : α) :
    ∀ m ∈ fs.toMembers a, m.1.isSome = true ∧ m.2.isHeld depth = true := by
  induction h with
  | nil => exact nofun
  | cons field_held _ ih =>
      obtain ⟨a, b⟩ := a
      rw [toMembers]
      split
      · exact ih b
      · exact List.forall_mem_cons.2 ⟨⟨rfl, field_held a⟩, ih b⟩

end Fields

theorem Codec.record_held {α : Type} {fs : Fields α} {depth : Nat} (h : fs.Held depth) :
    (Codec.record fs).Held (depth + 1) := fun a => Json.object_isHeld (h.members a)

/-! ### Tagged records -/

namespace Variants

variable {α β : Type} {vs : Variants α} {rest : Variants β} {fields : Fields α} {tag name : String}
  {depth : Nat} {a : α}

def names : {α : Type} → Variants α → List String
  | _, .nil => []
  | _, .cons name _ rest => name :: rest.names

/-- No two forms have one name, and no field has the name of the tag. -/
inductive Faithful (tag : String) (depth : Nat) : {α : Type} → Variants α → Prop
  | nil : Faithful tag depth .nil
  | cons {α β : Type} {name : String} {fields : Fields α} {rest : Variants β}
      (faithful : fields.Faithful) (held : fields.Held depth) (untagged : tag ∉ fields.names)
      (fresh : name ∉ rest.names) (others : Faithful tag depth rest) :
      Faithful tag depth (.cons name fields rest)

theorem toMembers_name_mem (a : α) : (vs.toMembers a).1 ∈ vs.names := by
  induction vs with
  | nil => cases a
  | cons name fields rest ih =>
      cases a with
      | inl a => exact List.mem_cons_self
      | inr b => exact List.mem_cons_of_mem _ (ih b)

theorem Faithful.ofMembers (h : vs.Faithful tag depth) (a : α) :
    vs.ofMembers (vs.toMembers a).1 (vs.toMembers a).2 = .ok a := by
  induction h with
  | nil => cases a
  | @cons α β name fields rest faithful _ _ fresh _ ih =>
      cases a with
      | inl a =>
          simp only [toMembers, Variants.ofMembers, faithful.ofMembers a]
          rfl
      | inr b =>
          have other : (rest.toMembers b).1 ≠ name := fun same =>
            fresh (same ▸ toMembers_name_mem b)
          simp only [toMembers, Variants.ofMembers, if_neg other, ih b]
          rfl

theorem Faithful.members (h : vs.Faithful tag depth) (a : α) : ∀ m ∈ (vs.toMembers a).2,
    m.1 ≠ some tag ∧ m.2.Legible ∧ m.1.isSome = true ∧ m.2.isHeld depth = true := by
  induction h with
  | nil => cases a
  | cons faithful held untagged _ _ ih =>
      cases a with
      | inl a =>
          intro m hm
          refine ⟨fun same => ?_, faithful.legible a m hm, held.members a m hm⟩
          obtain ⟨name, listed, named⟩ := Fields.name_mem_of_mem_toMembers hm
          exact untagged (Option.some.inj (same.symm.trans named) ▸ listed)
      | inr b => exact ih b

end Variants

namespace Codec

variable {α : Type} {vs : Variants α} {tag : String} {depth : Nat}

theorem tagged_encode (a : α) : (tagged tag depth vs).encode a =
    .object ((some tag, .text (vs.toMembers a).1) :: (vs.toMembers a).2) := rfl

theorem tagged_held (h : vs.Faithful tag depth) (a : α) :
    ((tagged tag (depth + 1) vs).encode a).isHeld (depth + 1) = true := by
  rw [tagged_encode]
  refine Json.object_isHeld (List.forall_mem_cons.2 ⟨⟨rfl, ?_⟩, fun m hm => (h.members a m hm).2.2⟩)
  rw [Json.isHeld]

theorem tagged_faithful (depth : Nat) (h : vs.Faithful tag depth) :
    (tagged tag (depth + 1) vs).Faithful where
  lossless a := by
    have members := h.members a
    have others : (vs.toMembers a).2.filter (·.1 = some tag) = [] := by
      rw [List.filter_eq_nil_iff]
      intro m hm
      simpa using (members m hm).1
    have own : (vs.toMembers a).2.filter (·.1 ≠ some tag) = (vs.toMembers a).2 := by
      rw [List.filter_eq_self]
      intro m hm
      simpa using (members m hm).1
    have held := tagged_held h a
    rw [tagged_encode] at held ⊢
    have tagOnly : ((some tag, Json.text (vs.toMembers a).1) :: (vs.toMembers a).2).filter
        (·.1 = some tag) = [(some tag, .text (vs.toMembers a).1)] := by
      rw [List.filter_cons_of_pos (by simp), others]
    have rest : ((some tag, Json.text (vs.toMembers a).1) :: (vs.toMembers a).2).filter
        (·.1 ≠ some tag) = (vs.toMembers a).2 := by
      rw [List.filter_cons_of_neg (by simp), own]
    simp only [tagged, held, if_true, tagOnly, rest, h.ofMembers a]
  legible a := by
    rw [tagged_encode]
    exact .object (List.forall_mem_cons.2 ⟨.text _, fun m hm => (h.members a m hm).2.1⟩)

end Codec

end BuildAdmission
