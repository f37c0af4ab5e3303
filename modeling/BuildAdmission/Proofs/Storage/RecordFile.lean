import BuildAdmission.Proofs.Codec.Formats
import BuildAdmission.Proofs.Storage.Log
import BuildAdmission.Storage.RecordFile

namespace BuildAdmission.RecordFile

variable {f : RecordFile} {t t' : FileTree} {units : List WorkUnit}

/-- A list that is written begins with a bracket. -/
theorem pretty_array_start (vs : List Json) : ∃ cs, (Json.array vs).pretty.toList = '[' :: cs := by
  rw [Json.pretty, String.toList_ofList]
  cases vs with
  | nil => exact ⟨_, rfl⟩
  | cons v vs => exact ⟨_, rfl⟩

theorem load_text (h : t.read f.path = .ok (WorkUnit.codec.list.encode units).pretty.toUTF8) :
    f.load t = .ok units := by
  have marked : (WorkUnit.codec.list.encode units).pretty.toList.all isWhiteSpace = false := by
    obtain ⟨cs, start⟩ := pretty_array_start (units.map WorkUnit.codec.encode)
    change (Json.array (units.map WorkUnit.codec.encode)).pretty.toList.all isWhiteSpace = false
    rw [start]
    rfl
  have decoded := ((Codec.list_faithful WorkUnit.codec_faithful).recovers units).2
  simp only [load, h, LogDirectory.fromUTF8?_eq_some.2 rfl, marked, decoded]
  rfl

/-- The records that were written are those that are read. -/
theorem load_flush (h : f.flush t units = (.ok (), t')) : f.load t' = .ok units := by
  unfold flush at h
  split at h
  · cases h
  · next drafted written =>
    split at h
    · cases h
    · next moved =>
      cases h
      exact load_text (FileTree.read_rename moved (FileTree.read_write written))

end BuildAdmission.RecordFile
