import BuildAdmission.Proofs.Codec.Formats

namespace BuildAdmission

open Codec

/-! ### Spans of time -/

namespace Duration

variable {d : Nat}

theorem digits_decimal {n : Nat} (h : d ∈ JsonNumber.digits n) : d < 10 := by
  obtain ⟨c, hc, rfl⟩ := List.mem_map.1 h
  have digit := Nat.isDigit_of_mem_toDigits (by decide) (by decide) hc
  rw [Char.isDigit_iff_toNat] at digit
  have zero : '0'.toNat = 48 := rfl
  have nine : '9'.toNat = 57 := rfl
  omega

/-- The digits after the point of a number that is laid out are digits. -/
theorem layout_decimal {x : Scaled} (h : d ∈ (layout x).fraction) : d < 10 := by
  unfold layout at h
  dsimp only at h
  split at h
  · exact digits_decimal (List.mem_of_mem_tail h)
  · split at h
    · rcases List.mem_append.1 h with zeros | digits
      · rw [List.eq_of_mem_replicate zeros]
        decide
      · exact digits_decimal digits
    · split at h
      · rw [List.mem_singleton.1 h]
        decide
      · exact digits_decimal (List.mem_of_mem_drop h)

theorem legible_toNumber (d : Duration) : (Json.number d.toNumber).Legible := by
  refine .number fun x hx => ?_
  unfold toNumber at hx
  dsimp only at hx
  split at hx
  · rw [List.mem_singleton.1 hx]
    decide
  · exact layout_decimal hx

end Duration

/-! ### Checkpoints -/

theorem Timestamp.decode_text (s : String) :
    codec.decode (.text s) = (ofText? s).elim (.error .malformed) .ok := rfl

namespace Checkpoint

variable {c c' : Checkpoint}

/-- What is read of the text in which the checkpoint is written. -/
def reread (c : Checkpoint) : Option Checkpoint := (codec.decodeText (codec.encodeText c)).toOption

theorem legible_encode (c : Checkpoint) : (codec.encode c).Legible := by
  have texts (l : List String) := (list_faithful text_faithful).legible l
  refine .object ?_
  simp only [Fields.required, Fields.toMembers, Bool.false_eq_true, if_false, List.forall_mem_cons,
    List.not_mem_nil, false_implies, implies_true, and_true]
  exact ⟨.text _, uint32_faithful.legible _, texts _, texts _, texts _,
    Duration.legible_toNumber _, TestStatus.codec_faithful.legible _, .text _⟩

theorem decodeText_encodeText (c : Checkpoint) :
    codec.decodeText (codec.encodeText c) = codec.decode (codec.encode c) := by
  rw [decodeText, encodeText, Json.read_compress (legible_encode c)]
  cases codec.decode (codec.encode c) <;> rfl

/-- Nothing but times can be lost when a checkpoint is written and read. -/
theorem reread_eq (c : Checkpoint) : c.reread =
    (Duration.ofNumber? c.data.timeSpent.toNumber).bind fun timeSpent =>
      (Timestamp.ofText? c.createdAt.toText).map fun createdAt =>
        { c with data := { c.data with timeSpent }, createdAt } := by
  have texts := list_faithful text_faithful
  have date : Timestamp.codec.encode c.createdAt = .text c.createdAt.toText := rfl
  have span : Duration.codec.decode (Duration.codec.encode c.data.timeSpent) =
      (Duration.ofNumber? c.data.timeSpent.toNumber).elim (.error .malformed) .ok := rfl
  rw [reread, decodeText_encodeText, codec]
  simp only [iso, record]
  rw [Fields.Sound.ofMembers (.required (by decide) <| .required (by decide) <|
    .required (by decide) <| .required (by decide) <| .required (by decide) <|
    .required (by decide) <| .required (by decide) <| .required (by decide) .nil)]
  rw [Fields.reread_faithful text_faithful, Fields.reread_faithful uint32_faithful,
    Fields.reread_faithful texts, Fields.reread_faithful texts, Fields.reread_faithful texts,
    Fields.reread_required, Fields.reread_faithful TestStatus.codec_faithful,
    Fields.reread_required, span, date, Timestamp.decode_text]
  cases Duration.ofNumber? c.data.timeSpent.toNumber with
  | none => rfl
  | some timeSpent => cases Timestamp.ofText? c.createdAt.toText <;> rfl

end Checkpoint

end BuildAdmission
