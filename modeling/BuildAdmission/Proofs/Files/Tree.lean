import BuildAdmission.Files.Tree
import BuildAdmission.Proofs.Except
import BuildAdmission.Proofs.IdMap

namespace BuildAdmission.FileTree

variable {t t' : FileTree} {path : FilePath} {place start target : Place}
  {node : FileNode} {content old : ByteArray}

theorem not_around (h : t.node? place ≠ some .directory) : place.isAround = false := by
  by_contra around
  exact h (if_pos (Bool.not_eq_false _ ▸ around))

theorem node?_put_self (h : t.node? place ≠ some .directory) :
    (t.put place node).node? place = some node := by
  rw [node?, not_around h]
  exact IdMap.find?_insert_self ..

theorem node?_put_of_ne (other : key target ≠ key place) :
    (t.put place node).node? target = t.node? target := by
  rw [node?, node?, put, IdMap.find?_insert, if_neg other]

theorem node?_erase_self (h : place.isAround = false) : (t.erase place).node? place = none := by
  rw [node?, h]
  exact (IdMap.find?_erase ..).trans (if_pos rfl)

theorem node?_erase_of_ne (other : key target ≠ key place) :
    (t.erase place).node? target = t.node? target := by
  rw [node?, node?, erase, IdMap.find?_erase, if_neg other]

/-- The keys of two places in one directory differ if their names do. -/
theorem key_snoc_inj {place : Place} {name name' : String}
    (same : key (place ++ [name]) = key (place ++ [name'])) : name = name' := by
  cases place with
  | nil => exact same
  | cons first rest =>
      have split (n : String) : key (first :: rest ++ [n]) = key (first :: rest) ++ "/" ++ n := by
        rw [key, String.intercalate_append_of_ne_nil (by simp) (by simp), String.intercalate_singleton]
        rfl
      rw [split, split] at same
      exact String.append_right_inj _ |>.1 same

/-! ### Ways -/

/-- Whatever is a directory in the one tree is one in the other. -/
def KeepsDirectories (t t' : FileTree) : Prop :=
  ∀ place, t.node? place = some .directory → t'.node? place = some .directory

/-- Only at one place are the nodes different, where no directory is. -/
theorem keepsDirectories_of_same (h : t.node? place ≠ some .directory)
    (same : ∀ target, key target ≠ key place → t'.node? target = t.node? target) :
    KeepsDirectories t t' := by
  intro target directory
  by_cases around : target.isAround = true
  · exact if_pos around
  · refine (same target fun at_place => h ?_).trans directory
    rw [node?, if_neg around] at directory
    rw [node?, not_around h, ← at_place]
    exact directory

theorem keepsDirectories_put (h : t.node? place ≠ some .directory) :
    KeepsDirectories t (t.put place node) :=
  keepsDirectories_of_same h fun _ => node?_put_of_ne

theorem keepsDirectories_erase (h : t.node? place ≠ some .directory) :
    KeepsDirectories t (t.erase place) :=
  keepsDirectories_of_same h fun _ => node?_erase_of_ne

theorem KeepsDirectories.trans {t'' : FileTree} (h : KeepsDirectories t t')
    (h' : KeepsDirectories t' t'') : KeepsDirectories t t'' := fun place directory =>
  h' place (h place directory)

/-- A way leads through directories only. -/
theorem KeepsDirectories.follow {way : List FilePath.Step} (kept : KeepsDirectories t t')
    (found : t.follow start way = .ok target) : t'.follow start way = .ok target := by
  induction way generalizing start with
  | nil => exact found
  | cons step way ih =>
      unfold FileTree.follow at found ⊢
      split at found
      · cases found
      · cases found
      · next directory =>
        simp only [kept _ directory]
        exact ih found
      · next directory =>
        simp only [kept _ directory]
        exact ih found
      · next directory =>
        simp only [kept _ directory]
        split at found
        · cases found
        · next short =>
          rw [if_neg short]
          exact ih found

theorem KeepsDirectories.locate (kept : KeepsDirectories t t') (found : t.locate path = .ok target) :
    t'.locate path = .ok target := by
  unfold FileTree.locate at found ⊢
  split at found
  · cases found
  · next named =>
    rw [if_neg named]
    split at found
    · next usable =>
      rw [if_pos usable]
      exact kept.follow found
    · cases found

theorem follow_append (t : FileTree) (start : Place) (way rest : List FilePath.Step) :
    t.follow start (way ++ rest) = t.follow start way >>= fun place => t.follow place rest := by
  induction way generalizing start with
  | nil => rfl
  | cons step way ih =>
      simp only [List.cons_append, follow]
      split
      · rfl
      · rfl
      · exact ih start
      · exact ih start.up
      · split
        · rfl
        · exact ih _

/-- Where a way leads that ends with a name. -/
theorem follow_snoc {way : List FilePath.Step} {name : String}
    (found : t.follow start (way ++ [.name name]) = .ok target) :
    ∃ place, t.follow start way = .ok place ∧ t.node? place = some .directory ∧
      target = place ++ [name] := by
  rw [follow_append] at found
  obtain ⟨place, way, last⟩ := Except.bind_eq_ok_iff.1 found
  refine ⟨place, way, ?_⟩
  unfold follow at last
  split at last
  · cases last
  · cases last
  · next same => cases same
  · next same => cases same
  · next directory same =>
    cases same
    split at last
    · cases last
    · cases last
      exact ⟨directory, rfl⟩

/-! ### Files -/

theorem openFile_cases (h : t.openFile path = .ok (place, old)) :
    t.locate path = .ok place ∧ path.endsInSlash = false ∧
      (t.node? place = none ∧ old = .empty ∨ t.node? place = some (.file old)) := by
  obtain ⟨there, located, h⟩ := Except.bind_eq_ok_iff.1 h
  split at h
  · cases h
  · next slash =>
    split at h
    · next absent =>
      cases h
      exact ⟨located, Bool.not_eq_true _ ▸ slash, .inl ⟨absent, rfl⟩⟩
    · next present =>
      cases h
      exact ⟨located, Bool.not_eq_true _ ▸ slash, .inr present⟩
    · cases h

theorem read_absent (located : t.locate path = .ok place) (absent : t.node? place = none) :
    t.read path = .error .notFound := by
  rw [read, find, located, Except.ok_bind, absent, Except.error_bind]

theorem read_file (located : t.locate path = .ok place) (slash : path.endsInSlash = false)
    (present : t.node? place = some (.file content)) : t.read path = .ok content := by
  simp only [read, find, located, present, slash, Except.ok_bind]
  rfl

theorem openFile_located (located : t.locate path = .ok place) (slash : path.endsInSlash = false)
    (held : t.node? place = none ∧ old = .empty ∨ t.node? place = some (.file old)) :
    t.openFile path = .ok (place, old) := by
  rw [openFile, located, Except.ok_bind, slash]
  rcases held with ⟨absent, rfl⟩ | present
  · rw [absent]
    rfl
  · rw [present]
    rfl

theorem append_located (located : t.locate path = .ok place) (slash : path.endsInSlash = false)
    (held : t.node? place = none ∧ old = .empty ∨ t.node? place = some (.file old))
    (added : ByteArray) : t.append path added = .ok (t.put place (.file (old ++ added))) := by
  rw [append, openFile_located located slash held]
  rfl

theorem write_located (located : t.locate path = .ok place) (slash : path.endsInSlash = false)
    (held : t.node? place = none ∧ old = .empty ∨ t.node? place = some (.file old))
    (content : ByteArray) : t.write path content = .ok (t.put place (.file content)) := by
  rw [write, openFile_located located slash held]
  rfl

theorem remove_located (located : t.locate path = .ok place) (slash : path.endsInSlash = false)
    (present : t.node? place = some (.file content)) : t.remove path = .ok (t.erase place) := by
  rw [remove, read_file located slash present, Except.ok_bind, located]
  rfl

theorem openFile_free (h : t.openFile path = .ok (place, old)) :
    t.node? place ≠ some .directory := by
  obtain ⟨_, _, ⟨absent, _⟩ | present⟩ := openFile_cases h
  · simp [absent]
  · simp [present]

/-- What was written to a file is read. -/
theorem read_put (opened : t.openFile path = .ok (place, old)) :
    (t.put place (.file content)).read path = .ok content := by
  obtain ⟨located, slash, _⟩ := openFile_cases opened
  have free := openFile_free opened
  exact read_file ((keepsDirectories_put free).locate located) slash (node?_put_self free)

/-- What is added to a file is read behind what stood there, and a file that is missing is made. -/
theorem read_append {added : ByteArray} (h : t.append path added = .ok t') :
    ∃ old, (t.read path = .ok old ∨ t.read path = .error .notFound ∧ old = .empty) ∧
      t'.read path = .ok (old ++ added) := by
  obtain ⟨⟨place, old⟩, opened, h⟩ := Except.bind_eq_ok_iff.1 h
  cases h
  obtain ⟨located, slash, held⟩ := openFile_cases opened
  refine ⟨old, ?_, read_put opened⟩
  rcases held with ⟨absent, rfl⟩ | present
  · exact .inr ⟨read_absent located absent, rfl⟩
  · exact .inl (read_file located slash present)

theorem read_write (h : t.write path content = .ok t') : t'.read path = .ok content := by
  obtain ⟨⟨place, old⟩, opened, h⟩ := Except.bind_eq_ok_iff.1 h
  cases h
  exact read_put opened

theorem read_located (h : t.read path = .ok content) :
    ∃ place, t.locate path = .ok place ∧ t.node? place = some (.file content) := by
  obtain ⟨node, held, h⟩ := Except.bind_eq_ok_iff.1 h
  split at h
  · cases h
    obtain ⟨place, located, held⟩ := Except.bind_eq_ok_iff.1 held
    refine ⟨place, located, ?_⟩
    split at held
    · cases held
    · cases held
    · next present =>
      split at held
      · cases held
      · cases held
        exact present
  · cases h

theorem node?_erase_free (h : t.node? target ≠ some .directory) :
    (t.erase place).node? target ≠ some .directory := by
  by_cases same : key target = key place
  · rw [node?, not_around h, same]
    simp [erase, IdMap.find?_erase]
  · rwa [node?_erase_of_ne same]

/-- A file that was moved is read where it was moved to. -/
theorem read_rename {source : FilePath} (h : t.rename source path = .ok t')
    (held : t.read source = .ok content) : t'.read path = .ok content := by
  obtain ⟨_, read, h⟩ := Except.bind_eq_ok_iff.1 h
  cases held.symm.trans read
  obtain ⟨old, located, h⟩ := Except.bind_eq_ok_iff.1 h
  obtain ⟨⟨new, _⟩, opened, h⟩ := Except.bind_eq_ok_iff.1 h
  cases h
  obtain ⟨_, there, present⟩ := read_located held
  cases located.symm.trans there
  obtain ⟨found, slash, _⟩ := openFile_cases opened
  have free : (t.erase old).node? new ≠ some .directory := node?_erase_free (openFile_free opened)
  have kept : KeepsDirectories t (t.erase old) := keepsDirectories_erase (by simp [present])
  exact read_file ((keepsDirectories_put free).locate (kept.locate found)) slash
    (node?_put_self free)

theorem read_congr (located : t.locate path = .ok place) (located' : t'.locate path = .ok place)
    (same : t'.node? place = t.node? place) : t'.read path = t.read path := by
  simp only [read, find, located, located', same, Except.ok_bind]

theorem rename_located {source : FilePath} {place' : Place}
    (located : t.locate source = .ok place) (slash : source.endsInSlash = false)
    (present : t.node? place = some (.file content)) (located' : t.locate path = .ok place')
    (slash' : path.endsInSlash = false)
    (held : t.node? place' = none ∧ old = .empty ∨ t.node? place' = some (.file old)) :
    t.rename source path = .ok ((t.erase place).put place' (.file content)) := by
  rw [rename, read_file located slash present, Except.ok_bind, located, Except.ok_bind,
    openFile_located located' slash' held]
  rfl

/-- Where no directory is, nothing or a file is. -/
theorem held_of_free (h : t.node? place ≠ some .directory) :
    ∃ old, t.node? place = none ∧ old = .empty ∨ t.node? place = some (.file old) := by
  cases there : t.node? place with
  | none => exact ⟨.empty, .inl ⟨rfl, rfl⟩⟩
  | some node =>
      cases node with
      | file old => exact ⟨old, .inr rfl⟩
      | directory => exact absurd there h

/-! ### A directory that is made again -/

theorem keepsDirectories_makeAlong (way : List FilePath.Step) (t : FileTree) (place : Place) :
    KeepsDirectories t (t.makeAlong place way).2 := by
  induction way generalizing t place with
  | nil => exact fun _ => id
  | cons step way ih =>
      cases step with
      | here => exact ih t place
      | up => exact ih t place.up
      | name s =>
          rw [makeAlong]
          split
          · exact fun _ => id
          · split
            · exact ih _ _
            · exact fun _ => id
            · next absent =>
              have free : t.node? (place ++ [s]) ≠ some .directory := by simp [absent]
              exact (keepsDirectories_put free).trans (ih _ _)

theorem makeAlong_again {b : FileTree} {way : List FilePath.Step}
    (made : t.makeAlong place way = (.ok (), b)) (kept : KeepsDirectories b t') :
    t'.makeAlong place way = (.ok (), t') := by
  induction way generalizing t place with
  | nil => rfl
  | cons step way ih =>
      cases step with
      | here => exact ih made
      | up => exact ih made
      | name s =>
          rw [makeAlong] at made ⊢
          split at made
          · cases made
          · next short =>
            rw [if_neg short]
            split at made
            · next directory =>
              have there := keepsDirectories_makeAlong way t (place ++ [s]) _ directory
              rw [made] at there
              rw [kept _ there]
              exact ih made
            · cases made
            · next absent =>
              have there := keepsDirectories_makeAlong way (t.put (place ++ [s]) .directory)
                (place ++ [s]) _ (node?_put_self (by simp [absent]))
              rw [made] at there
              rw [kept _ there]
              exact ih made

theorem KeepsDirectories.findDirectory (kept : KeepsDirectories t t')
    (found : t.findDirectory path = .ok ()) : t'.findDirectory path = .ok () := by
  obtain ⟨node, held, directory⟩ := Except.bind_eq_ok_iff.1 found
  obtain ⟨place, located, held⟩ := Except.bind_eq_ok_iff.1 held
  rw [FileTree.findDirectory, find, kept.locate located, Except.ok_bind]
  split at held
  · cases held
  · next there =>
    rw [kept _ there]
    rfl
  · split at held
    · cases held
    · cases held
      cases directory

/-- A directory that was made is there as long as directories are kept. -/
theorem makeDirectory_again {b : FileTree} (made : t.makeDirectory path = (.ok (), b))
    (kept : KeepsDirectories b t') : t'.makeDirectory path = (.ok (), t') := by
  unfold makeDirectory at made ⊢
  split at made
  · cases made
  · next usable =>
    rw [if_neg usable]
    split at made
    · next last =>
      rw [if_pos last]
      split at made
      · next along =>
        obtain ⟨found, rfl⟩ := Prod.mk.inj made
        rw [makeAlong_again along kept]
        dsimp only
        rw [kept.findDirectory found]
      · next failed => exact (failed b made).elim
    · next last =>
      rw [if_neg last]
      exact makeAlong_again made kept

end BuildAdmission.FileTree
