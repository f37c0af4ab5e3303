import BuildAdmission.Codec.Basic
import BuildAdmission.Proofs.Except
import BuildAdmission.Proofs.IdMap
import BuildAdmission.Proofs.IdSet
import BuildAdmission.Proofs.Json.Legible

namespace BuildAdmission

theorem JsonNumber.ofInt_decimal (i : Int) : ∀ d ∈ (ofInt i).fraction, d < 10 := by
  cases i <;> exact nofun

theorem JsonNumber.toInt?_ofInt (i : Int) : (ofInt i).toInt? = some i := by
  cases i with
  | ofNat n => rfl
  | negSucc n =>
      simp [ofInt, toInt?, Int.negSucc_eq]

namespace Codec

variable {α β : Type} {c : Codec α} {a : α} {s : String}

theorem decodeText_eq_ok : c.decodeText s = .ok a ↔
    c.decode (Json.read s).value = .ok a ∧ (Json.read s).complete = true := by
  simp only [decodeText, bind, Except.bind]
  cases c.decode (Json.read s).value with
  | error e => simp
  | ok b => cases (Json.read s).complete <;> simp

/-- A value is written as JSON that a text can spell, and is read back from it. -/
structure Faithful (c : Codec α) : Prop where
  lossless : c.Lossless
  legible : ∀ a, (c.encode a).Legible

/-- The text of a value is read back as that value, also where it is set out over several lines. -/
def Recovers (c : Codec α) : Prop :=
  ∀ a, c.decodeText (c.encodeText a) = .ok a ∧ c.decodeText (c.encode a).pretty = .ok a

theorem Faithful.recovers (h : c.Faithful) : c.Recovers := by
  intro a
  rw [decodeText_eq_ok, decodeText_eq_ok, encodeText, Json.read_compress (h.legible a),
    Json.read_pretty (h.legible a)]
  exact ⟨⟨h.lossless a, rfl⟩, h.lossless a, rfl⟩

/-! ### Plain values -/

theorem text_faithful : text.Faithful := ⟨fun _ => rfl, .text⟩

theorem bool_faithful : bool.Faithful := ⟨fun _ => rfl, .bool⟩

theorem decode_integer (i : Int) : integer.decode (.int i) = .ok i := by
  simp [integer, Json.int, JsonNumber.toInt?_ofInt]

theorem decode_range {lo hi i : Int} {f : Int → α} {g : α → Int} (h : lo ≤ i ∧ i < hi) :
    (range lo hi f g).decode (.int i) = .ok (f i) := by
  rw [range]
  dsimp only
  rw [decode_integer, Except.ok_bind, if_pos h]

theorem range_faithful {lo hi : Int} {f : Int → α} {g : α → Int}
    (bounds : ∀ a, lo ≤ g a ∧ g a < hi) (inverse : ∀ a, f (g a) = a) :
    (range lo hi f g).Faithful where
  lossless a := (decode_range (bounds a)).trans (congrArg Except.ok (inverse a))
  legible a := .number (JsonNumber.ofInt_decimal (g a))

theorem uint32_faithful : uint32.Faithful := by
  apply range_faithful
  · intro n
    have := n.toNat_lt
    simp only [UInt32.size]
    omega
  · intro n
    rw [Int.toNat_natCast, UInt32.ofNat_toNat]

theorem uint64_faithful : uint64.Faithful := by
  apply range_faithful
  · intro n
    have := n.toNat_lt
    simp only [UInt64.size]
    omega
  · intro n
    rw [Int.toNat_natCast, UInt64.ofNat_toNat]

theorem int32_faithful : int32.Faithful := by
  apply range_faithful
  · intro n
    exact ⟨n.minValue_le_toInt, Int.lt_add_one_of_le n.toInt_le⟩
  · exact fun n => Int32.ofInt_toInt n

theorem wide_faithful : wide.Faithful := by
  apply range_faithful
  · intro n
    exact ⟨Int.natCast_nonneg _, Int.ofNat_lt.2 n.isLt⟩
  · intro n
    rw [Int.toNat_natCast]
    exact Fin.ofNat_val_eq_self n

theorem names_faithful [DecidableEq α] {name : α → String} {all : List α} (each : ∀ a, a ∈ all)
    (distinct : (all.map name).Nodup) : (names name all).Faithful where
  lossless a := by
    have found : all.find? (name · = name a) = some a := by
      cases first : all.find? (name · = name a) with
      | none =>
          have missed := List.find?_eq_none.1 first a (each a)
          simp at missed
      | some b =>
          have same : name b = name a := by simpa using List.find?_some first
          rw [List.inj_on_of_nodup_map distinct (each b) (each a) same]
    simp only [names, found, Option.elim_some]
  legible a := .text (name a)

/-! ### Collections -/

/-- A value that is not written as null is read by its own codec. -/
theorem decode_option {v : Json} (h : v ≠ .null) : c.option.decode v = (c.decode v).map some := by
  rw [option]
  dsimp only
  split
  · exact absurd rfl h
  · rfl

theorem option_faithful (h : c.Faithful) (present : ∀ a, c.encode a ≠ .null) :
    c.option.Faithful where
  lossless a := by
    cases a with
    | none => rfl
    | some a => exact (decode_option (present a)).trans (congrArg (Except.map some) (h.lossless a))
  legible a := by
    cases a with
    | none => exact .null
    | some a => exact h.legible a

theorem mapM_map {γ : Type} {f : β → Except DecodeError γ} {g : α → β} {k : α → γ}
    (h : ∀ a, f (g a) = .ok (k a)) (as : List α) : (as.map g).mapM f = .ok (as.map k) := by
  induction as with
  | nil => rfl
  | cons a as ih =>
      rw [List.map_cons, List.mapM_cons, h, Except.ok_bind, ih, Except.ok_bind]
      rfl

theorem list_faithful (h : c.Faithful) : c.list.Faithful where
  lossless as := (mapM_map h.lossless as).trans (congrArg Except.ok (List.map_id as))
  legible as := .array fun v hv => by
    obtain ⟨a, _, rfl⟩ := List.mem_map.1 hv
    exact h.legible a

theorem idSet_faithful : idSet.Faithful where
  lossless s := by
    have read : text.list.decode (.array (s.toList.map .text)) = .ok s.toList :=
      (list_faithful text_faithful).lossless s.toList
    rw [idSet]
    dsimp only
    rw [read]
    exact congrArg Except.ok (IdSet.ofList_toList s)
  legible s := (list_faithful text_faithful).legible s.toList

theorem idMap_faithful (h : c.Faithful) : c.idMap.Faithful where
  lossless m := by
    have entry (e : String × α) : decodeEntry c (some e.1, c.encode e.2) = .ok e := by
      rw [decodeEntry, h.lossless]
      rfl
    rw [idMap]
    dsimp only
    rw [mapM_map entry, List.map_id']
    exact congrArg Except.ok m.ofList_entries
  legible m := .object fun v hv => by
    obtain ⟨e, _, rfl⟩ := List.mem_map.1 hv
    exact h.legible e.2

theorem iso_faithful (h : c.Faithful) {f : α → β} {g : β → α} (inverse : ∀ b, f (g b) = b) :
    (c.iso f g).Faithful where
  lossless b := by
    rw [iso]
    dsimp only
    rw [h.lossless]
    exact congrArg Except.ok (inverse b)
  legible b := h.legible (g b)

end Codec

end BuildAdmission
