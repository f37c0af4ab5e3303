import BuildAdmission.Proofs.Codec.Checkpoint
import BuildAdmission.Proofs.Files.Path
import BuildAdmission.Proofs.Storage.Log

namespace BuildAdmission

/-- What is written of the checkpoint is read as the checkpoint. -/
def Checkpoint.Readable (c : Checkpoint) : Prop :=
  Checkpoint.codec.decodeText (Checkpoint.codec.encodeText c) = .ok c

theorem Checkpoint.Readable.reread {c : Checkpoint} (h : c.Readable) : c.reread = some c := by
  rw [Checkpoint.reread, h]
  rfl

theorem Checkpoint.filterMap_reread {cs : List Checkpoint} (readable : ∀ c ∈ cs, c.Readable) :
    cs.filterMap Checkpoint.reread = cs :=
  (List.filterMap_congr fun c hc => (readable c hc).reread).trans List.filterMap_some

namespace LogDirectory

variable {d : LogDirectory} {t t' : FileTree} {place dir : Place} {id : UnitId} {c : Checkpoint}
  {cs : List Checkpoint}

/-! ### Names of logs -/

theorem slash_not_mem_fileName (id : UnitId) : '/' ∉ (fileName id).toList := by
  rw [fileName, String.toList_append, String.toList_ofList, List.mem_append, List.mem_map]
  rintro (⟨c, _, same⟩ | ending)
  · split at same
    · next keeps =>
      subst same
      cases keeps
    · cases same
  · exact absurd ending (by decide)

theorem six_le_length_fileName (id : UnitId) : 6 ≤ (fileName id).length := by
  rw [fileName, String.length_append]
  exact Nat.le_add_left ..

theorem fileName_ne (id : UnitId) {s : String} (short : s.length < 6) : fileName id ≠ s := by
  rintro rfl
  exact Nat.not_le.2 short (six_le_length_fileName id)

theorem steps_filePath (d : LogDirectory) (id : UnitId) :
    (d.filePath id).steps = FilePath.steps d.path ++ [.name (fileName id)] := by
  rw [filePath, FilePath.steps_join, FilePath.steps_name (slash_not_mem_fileName id)
    (fileName_ne id (by decide)) (fileName_ne id (by decide)) (fileName_ne id (by decide))]

theorem endsInSlash_filePath (d : LogDirectory) (id : UnitId) :
    (d.filePath id).endsInSlash = false :=
  FilePath.endsInSlash_join (slash_not_mem_fileName id) (fileName_ne id (by decide))

/-- All logs are in one place, which is a directory. -/
theorem locate_filePath (found : t.locate (d.filePath id) = .ok place) :
    ∃ dir, t.follow [] (FilePath.steps d.path) = .ok dir ∧ place = dir ++ [fileName id] := by
  unfold FileTree.locate at found
  split at found
  · cases found
  · split at found
    · rw [steps_filePath] at found
      obtain ⟨dir, way, _, rfl⟩ := FileTree.follow_snoc found
      exact ⟨dir, way, rfl⟩
    · cases found

theorem key_ne_of_fileName {k : UnitId} (other : fileName k ≠ fileName id) :
    FileTree.key (dir ++ [fileName k]) ≠ FileTree.key (dir ++ [fileName id]) :=
  fun same => other (FileTree.key_snoc_inj same)

/-! ### The text of a log -/

/-- The text of a log with these checkpoints. -/
def textOf (cs : List Checkpoint) : String := String.join (cs.map line)

theorem textOf_append (cs cs' : List Checkpoint) : textOf (cs ++ cs') = textOf cs ++ textOf cs' := by
  rw [textOf, List.map_append, String.join_append]
  rfl

/-- Each line of the text is read by itself. -/
theorem checkpointsIn_textOf (cs : List Checkpoint) :
    checkpointsIn (textOf cs) = cs.filterMap Checkpoint.reread := by
  induction cs with
  | nil => exact checkpointsIn_empty
  | cons c cs ih =>
      have lines : textOf (c :: cs) = .ofList (written c ++ '\n' :: (textOf cs).toList) := by
        apply String.ext
        rw [String.toList_ofList, textOf, List.map_cons, String.join_cons, String.toList_append,
          toList_line, List.append_assoc]
        rfl
      have first : onLine (written c) = c.reread := rfl
      rw [lines, checkpointsIn_break, checkpointsIn_line (newline_not_mem_written c),
        String.ofList_toList, ih, first]
      cases read : c.reread with
      | none => rw [List.filterMap_cons_none read, Option.toList_none, List.nil_append]
      | some c' => rw [List.filterMap_cons_some read, Option.toList_some, List.singleton_append]

/-! ### A log at a place -/

/-- At the place is a log of these checkpoints. Where nothing is, the log is empty. -/
inductive Holds (t : FileTree) (place : Place) : List Checkpoint → Prop
  | absent (h : t.node? place = none) : Holds t place []
  | file {log} (h : t.node? place = some (.file (textOf log).toUTF8)) : Holds t place log

theorem Holds.congr (h : Holds t place cs) (same : t'.node? place = t.node? place) :
    Holds t' place cs := by
  cases h with
  | absent h => exact .absent (same.trans h)
  | file h => exact .file (same.trans h)

theorem Holds.ne_directory (h : Holds t place cs) : t.node? place ≠ some .directory := by
  intro directory
  cases h with
  | absent h => cases h.symm.trans directory
  | file h => cases h.symm.trans directory

theorem Holds.held (h : Holds t place cs) :
    t.node? place = none ∧ (textOf cs).toUTF8 = .empty ∨
      t.node? place = some (.file (textOf cs).toUTF8) := by
  cases h with
  | absent h => exact .inl ⟨h, rfl⟩
  | file h => exact .inr h

section

variable (located : t.locate (d.filePath id) = .ok place)
include located

theorem readAll_absent (h : t.node? place = none) : d.readAll t id = .ok none := by
  rw [readAll, FileTree.read_absent located h]

theorem readAll_file (h : t.node? place = some (.file (textOf cs).toUTF8)) :
    d.readAll t id = .ok (some (cs.filterMap Checkpoint.reread)) := by
  rw [readAll, FileTree.read_file located (endsInSlash_filePath d id) h]
  simp only [checkpointsOf, fromUTF8?_eq_some.2 rfl, checkpointsIn_textOf]
  rfl

theorem Holds.history (h : Holds t place cs) : d.history t id =
    .ok (sortByIteration ((cs.filterMap Checkpoint.reread).filter (·.unitId = id))) := by
  rw [LogDirectory.history]
  cases h with
  | absent h =>
      rw [readAll_absent located h]
      rfl
  | file h =>
      rw [readAll_file located h]
      rfl

end

/-- A checkpoint that is added stands at the end. -/
theorem Holds.append (h : Holds t place cs) (located : t.locate (d.filePath id) = .ok place)
    (c : Checkpoint) : ∃ t', t.append (d.filePath id) (line c).toUTF8 = .ok t' ∧
      Holds t' place (cs ++ [c]) ∧
      ∀ target, FileTree.key target ≠ FileTree.key place → t'.node? target = t.node? target := by
  refine ⟨_, FileTree.append_located located (endsInSlash_filePath d id) h.held _, .file ?_,
    fun _ => FileTree.node?_put_of_ne⟩
  have single : textOf [c] = line c := by
    rw [textOf, List.map_singleton, String.join_cons, String.join_nil, String.append_empty]
  rw [FileTree.node?_put_self h.ne_directory, textOf_append, single, String.toUTF8_eq_toByteArray,
    String.toUTF8_eq_toByteArray, String.toUTF8_eq_toByteArray, String.toByteArray_append]

/-- The checkpoints of one unit are dropped. Those of the others are read and written again. -/
theorem Holds.deleteAll (h : Holds t place cs) (located : t.locate (d.filePath id) = .ok place) :
    ∃ t', d.deleteAll t id = .ok t' ∧
      Holds t' place ((cs.filterMap Checkpoint.reread).filter (·.unitId ≠ id)) ∧
      ∀ target, FileTree.key target ≠ FileTree.key place → t'.node? target = t.node? target := by
  have slash := endsInSlash_filePath d id
  rw [LogDirectory.deleteAll]
  cases h with
  | absent h =>
      rw [readAll_absent located h]
      exact ⟨t, rfl, .absent h, fun _ _ => rfl⟩
  | file h =>
      rw [readAll_file located h, Except.ok_bind]
      dsimp only
      have free := (Holds.file h).ne_directory
      by_cases alone : (cs.filterMap Checkpoint.reread).filter (·.unitId ≠ id) = []
      · rw [alone, List.isEmpty_nil, if_pos rfl, FileTree.remove_located located slash h]
        exact ⟨_, rfl, .absent (FileTree.node?_erase_self (FileTree.not_around free)),
          fun _ => FileTree.node?_erase_of_ne⟩
      · rw [if_neg (by simpa using alone), FileTree.write_located located slash (.inr h)]
        exact ⟨_, rfl, .file (FileTree.node?_put_self free), fun _ => FileTree.node?_put_of_ne⟩

end LogDirectory

end BuildAdmission
