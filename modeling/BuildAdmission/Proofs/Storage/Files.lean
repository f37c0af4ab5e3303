import BuildAdmission.Proofs.Storage.Keeping
import BuildAdmission.Proofs.Storage.RecordFile
import BuildAdmission.Proofs.Storage.SharedLog

namespace BuildAdmission

open FileTree

/-! ### What is read back of a checkpoint -/

namespace Checkpoint

variable {c c' : Checkpoint} {id : UnitId}

theorem retimed_reread : Retimed Checkpoint.reread fun span =>
    (Duration.ofNumber? span.toNumber).getD span := by
  intro c c' read
  rw [reread_eq] at read
  obtain ⟨span, spent, read⟩ := Option.bind_eq_some_iff.1 read
  obtain ⟨date, _, rfl⟩ := Option.map_eq_some_iff.1 read
  rw [CheckpointData.rounded, spent]
  rfl

theorem unitId_of_reread (read : c.reread = some c') : c'.unitId = c.unitId := by
  rw [retimed_reread c c' read]

theorem filter_reread (cs : List Checkpoint) (id : UnitId) :
    (cs.filterMap reread).filter (·.unitId = id) =
      (cs.filter (·.unitId = id)).filterMap reread := by
  rw [List.filter_filterMap, List.filterMap_filter]
  refine List.filterMap_congr fun c _ => ?_
  cases read : c.reread with
  | none => simp
  | some c' => simp [unitId_of_reread read, Option.filter]

end Checkpoint

/-! ### A directory of logs -/

namespace LogDirectory

variable {d : LogDirectory} {dir place : Place} {t t' : FileTree} {id : UnitId} {c : Checkpoint}
  {cs : List Checkpoint}

/-- The file system takes the name of the unit's log. -/
structure Takes (d : LogDirectory) (id : UnitId) : Prop where
  usable : (d.filePath id).isUsable = true
  short : (fileName id).utf8ByteSize ≤ FilePath.maxNameBytes

/-- The directory is there, and its logs hold a checkpoint on every line. -/
structure Stands (d : LogDirectory) (dir : Place) (t : FileTree) : Prop where
  way : t.follow [] (FilePath.steps d.path) = .ok dir
  directory : t.node? dir = some .directory
  held : ∀ id, ∃ cs, Holds t (dir ++ [fileName id]) cs

/-- What is stored for each unit. -/
def logs (d : LogDirectory) (t : FileTree) (id : UnitId) : List Checkpoint :=
  (d.history t id).toOption.getD []

theorem Takes.congr (h : d.Takes id) {k : UnitId} (file : fileName k = fileName id) : d.Takes k := by
  obtain ⟨usable, short⟩ := h
  rw [filePath, ← file] at usable
  exact ⟨usable, file ▸ short⟩

theorem filePath_ne_empty (d : LogDirectory) (id : UnitId) : d.filePath id ≠ "" := by
  intro empty
  have steps := steps_filePath d id
  rw [empty, FilePath.steps_empty] at steps
  simp at steps

theorem latest?_eq_ok {latest : Option Checkpoint} (h : d.latest? t id = .ok latest) :
    latest = (d.logs t id).getLast? := by
  obtain ⟨log, history, rfl⟩ := Except.map_eq_ok_iff.1 h
  rw [logs, history]
  rfl

namespace Stands

section

variable (h : d.Stands dir t)
include h

/-- A log is found in the directory, if the file system takes its name. -/
theorem located (takes : d.Takes id) : t.locate (d.filePath id) = .ok (dir ++ [fileName id]) := by
  rw [locate, if_neg (filePath_ne_empty d id), if_pos takes.usable, steps_filePath, follow_append,
    h.way, Except.ok_bind]
  simp only [follow, h.directory, if_neg (Nat.not_lt.2 takes.short)]

theorem refused (other : ¬ d.Takes id) : d.readAll t id = .error FileError.refused.refusal := by
  have lost : t.locate (d.filePath id) = .error .refused := by
    rw [locate, if_neg (filePath_ne_empty d id)]
    split
    · next usable =>
      rw [steps_filePath, follow_append, h.way, Except.ok_bind]
      have long : FilePath.maxNameBytes < (fileName id).utf8ByteSize :=
        Nat.lt_of_not_le fun short => other ⟨usable, short⟩
      simp only [follow, h.directory, if_pos long]
    · rfl
  simp only [readAll, FileTree.read, find, lost, Except.error_bind]

theorem logs_eq (takes : d.Takes id) (holds : Holds t (dir ++ [fileName id]) cs) :
    d.history t id = .ok (d.logs t id) ∧ d.logs t id =
      sortByIteration ((cs.filterMap Checkpoint.reread).filter (·.unitId = id)) := by
  rw [logs, holds.history (h.located takes)]
  exact ⟨rfl, rfl⟩

theorem history (takes : d.Takes id) : d.history t id = .ok (d.logs t id) := by
  obtain ⟨cs, holds⟩ := h.held id
  exact (h.logs_eq takes holds).1

theorem latest? (takes : d.Takes id) : d.latest? t id = .ok (d.logs t id).getLast? := by
  rw [LogDirectory.latest?, h.history takes]
  rfl

theorem logs_congr (h' : d.Stands dir t')
    (same : t'.node? (dir ++ [fileName id]) = t.node? (dir ++ [fileName id])) :
    d.logs t' id = d.logs t id := by
  by_cases takes : d.Takes id
  · obtain ⟨cs, holds⟩ := h.held id
    rw [(h.logs_eq takes holds).2, (h'.logs_eq takes (holds.congr same)).2]
  · rw [logs, logs, LogDirectory.history, LogDirectory.history, h.refused takes, h'.refused takes]

theorem logs_absent (absent : t.node? (dir ++ [fileName id]) = none) : d.logs t id = [] := by
  by_cases takes : d.Takes id
  · rw [(h.logs_eq takes (.absent absent)).2, List.filterMap_nil, List.filter_nil, sortByIteration,
      List.mergeSort_nil]
  · rw [logs, LogDirectory.history, h.refused takes]
    rfl

/-- Files may change as long as there are no others than logs in the places of logs. -/
theorem change (kept : KeepsDirectories t t') (held : ∀ id, ∃ cs, Holds t' (dir ++ [fileName id]) cs) :
    d.Stands dir t' :=
  ⟨kept.follow h.way, kept _ h.directory, held⟩

theorem change_log (before : Holds t (dir ++ [fileName id]) cs) {cs' : List Checkpoint}
    (after : Holds t' (dir ++ [fileName id]) cs')
    (same : ∀ target, key target ≠ key (dir ++ [fileName id]) → t'.node? target = t.node? target) :
    d.Stands dir t' := by
  refine h.change (keepsDirectories_of_same before.ne_directory same) fun k => ?_
  by_cases file : fileName k = fileName id
  · exact ⟨cs', file ▸ after⟩
  · obtain ⟨ds, holds⟩ := h.held k
    exact ⟨ds, holds.congr (same _ (key_ne_of_fileName file))⟩

/-! ### Changes of logs -/

/-- A checkpoint is saved if it is newer than the others of its unit. -/
theorem save_eq (takes : d.Takes c.unitId) (holds : Holds t (dir ++ [fileName c.unitId]) cs) :
    ∃ t', d.save t c = (Checkpoint.checkNewer c.unitId c.iteration
        (Checkpoint.iterationOf (d.logs t c.unitId).getLast?)).map (fun _ => t') ∧
      Holds t' (dir ++ [fileName c.unitId]) (cs ++ [c]) ∧
      ∀ target, key target ≠ key (dir ++ [fileName c.unitId]) →
        t'.node? target = t.node? target := by
  obtain ⟨t', appended, holds', same⟩ := holds.append (h.located takes) c
  refine ⟨t', ?_, holds', same⟩
  rw [LogDirectory.save, h.latest? takes, Except.ok_bind, appended]
  cases Checkpoint.checkNewer c.unitId c.iteration
    (Checkpoint.iterationOf (d.logs t c.unitId).getLast?) <;> rfl

/-- The log of one unit is changed if the file reads the same for the others that have theirs in it. -/
theorem logs_update {cs' log : List Checkpoint} (takes : d.Takes id)
    (holds : Holds t (dir ++ [fileName id]) cs) (holds' : Holds t' (dir ++ [fileName id]) cs')
    (same : ∀ target, key target ≠ key (dir ++ [fileName id]) → t'.node? target = t.node? target)
    (own : sortByIteration ((cs'.filterMap Checkpoint.reread).filter (·.unitId = id)) = log)
    (others : ∀ k ≠ id, fileName k = fileName id →
      sortByIteration ((cs'.filterMap Checkpoint.reread).filter (·.unitId = k)) =
        sortByIteration ((cs.filterMap Checkpoint.reread).filter (·.unitId = k))) :
    d.logs t' = Function.update (d.logs t) id log := by
  have h' := h.change_log holds holds' same
  funext k
  by_cases file : fileName k = fileName id
  · have takes' := takes.congr file
    rw [(h'.logs_eq takes' (file ▸ holds')).2]
    by_cases named : k = id
    · rw [named, Function.update_self, own]
    · rw [Function.update_of_ne named, (h.logs_eq takes' (file ▸ holds)).2, others k named file]
  · rw [Function.update_of_ne fun named => file (congrArg fileName named)]
    exact h.logs_congr h' (same _ (key_ne_of_fileName file))

/-- What is read back of a checkpoint that was saved joins the log of its unit. -/
theorem logs_append (takes : d.Takes c.unitId) (holds : Holds t (dir ++ [fileName c.unitId]) cs)
    (newer : Checkpoint.iterationOf (d.logs t c.unitId).getLast? < c.iteration)
    (holds' : Holds t' (dir ++ [fileName c.unitId]) (cs ++ [c]))
    (same : ∀ target, key target ≠ key (dir ++ [fileName c.unitId]) →
      t'.node? target = t.node? target) :
    d.logs t' = Function.update (d.logs t) c.unitId (d.logs t c.unitId ++ c.reread.toList) := by
  have log := (h.logs_eq takes holds).2
  have added : (cs ++ [c]).filterMap Checkpoint.reread =
      cs.filterMap Checkpoint.reread ++ c.reread.toList := by
    rw [List.filterMap_append, List.filterMap_cons]
    cases c.reread <;> rfl
  refine h.logs_update takes holds holds' same ?_ fun k other _ => ?_
  · rw [added, List.filter_append, log]
    rw [log] at newer
    cases read : c.reread with
    | none => rw [Option.toList_none, List.filter_nil, List.append_nil, List.append_nil]
    | some c' =>
        have same := Checkpoint.retimed_reread c c' read
        have named : [c'].filter (·.unitId = c.unitId) = [c'] := by
          rw [List.filter_singleton, Checkpoint.unitId_of_reread read]
          simp
        have number : c'.iteration = c.iteration := by rw [same]
        rw [Option.toList_some, named]
        refine sortByIteration_append fun a ha => ?_
        have listed := (sortByIteration_perm _).mem_iff.2 ha
        have older := le_last (sorted_sortByIteration _) listed
        exact number ▸ UInt32.le_trans older (UInt32.le_of_lt newer)
  · have none : c.reread.toList.filter (·.unitId = k) = [] := by
      rw [List.filter_eq_nil_iff]
      intro c' hc'
      rw [Checkpoint.unitId_of_reread (Option.mem_toList.1 hc')]
      simpa using Ne.symm other
    rw [added, List.filter_append, none, List.append_nil]

/-- The log of one unit is emptied, and what is read back as it is stays. -/
theorem logs_deleteAll (clean : Checkpoint.Settled Checkpoint.reread (d.logs t)) (takes : d.Takes id)
    (holds : Holds t (dir ++ [fileName id]) cs)
    (holds' : Holds t' (dir ++ [fileName id])
      ((cs.filterMap Checkpoint.reread).filter (·.unitId ≠ id)))
    (same : ∀ target, key target ≠ key (dir ++ [fileName id]) → t'.node? target = t.node? target) :
    d.logs t' = Function.update (d.logs t) id [] := by
  refine h.logs_update takes holds holds' same ?_ fun k other file => ?_
  · have none : (cs.filterMap Checkpoint.reread).filter
        (fun c => decide (c.unitId = id) && decide (c.unitId ≠ id)) = [] := by simp
    rw [Checkpoint.filter_reread, List.filter_filter, none, List.filterMap_nil, sortByIteration,
      List.mergeSort_nil]
  · have log := (h.logs_eq (takes.congr file) (file ▸ holds)).2
    have spared : (cs.filterMap Checkpoint.reread).filter
        (fun c => decide (c.unitId = k) && decide (c.unitId ≠ id)) =
        (cs.filterMap Checkpoint.reread).filter (·.unitId = k) := by
      refine List.filter_congr fun c _ => ?_
      by_cases hc : c.unitId = k <;> simp [hc, other]
    have reads : ∀ c ∈ (cs.filterMap Checkpoint.reread).filter (·.unitId = k),
        c.reread = some c := by
      intro c hc
      exact clean k c (log ▸ (sortByIteration_perm _).mem_iff.2 hc)
    rw [Checkpoint.filter_reread, List.filter_filter, spared, List.filterMap_congr reads,
      List.filterMap_some]

end

end Stands

end LogDirectory

/-! ### The file of records -/

namespace RecordFile

variable {f : RecordFile} {place draft : Place} {t t' : FileTree}

/-- The records can be read, and their file and the draft of the next one have places of their own. -/
structure Stands (f : RecordFile) (place draft : Place) (t : FileTree) : Prop where
  located : t.locate f.path = .ok place
  located_draft : t.locate f.draftPath = .ok draft
  bare : f.path.endsInSlash = false
  apart : key place ≠ key draft
  free : t.node? place ≠ some .directory
  free_draft : t.node? draft ≠ some .directory
  loads : ∃ us, f.load t = .ok us

theorem endsInSlash_draftPath (f : RecordFile) : f.draftPath.endsInSlash = false := by
  rw [draftPath, FilePath.endsInSlash, String.toList_append,
    List.getLast?_append_of_ne_nil _ (by decide)]
  decide

namespace Stands

variable (h : f.Stands place draft t)
include h

theorem change (kept : KeepsDirectories t t') (same : t'.node? place = t.node? place)
    (same_draft : t'.node? draft = t.node? draft) :
    f.Stands place draft t' ∧ f.load t' = f.load t := by
  have load : f.load t' = f.load t := by
    rw [RecordFile.load, RecordFile.load, read_congr h.located (kept.locate h.located) same]
  exact ⟨⟨kept.locate h.located, kept.locate h.located_draft, h.bare, h.apart, same ▸ h.free,
    same_draft ▸ h.free_draft, load ▸ h.loads⟩, load⟩

/-- The records are written over the old ones, and the draft is gone. -/
theorem flush (us : List WorkUnit) : ∃ t', f.flush t us = (.ok (), t') ∧ f.Stands place draft t' ∧
    f.load t' = .ok us ∧ KeepsDirectories t t' ∧
    ∀ target, key target ≠ key place → key target ≠ key draft →
      t'.node? target = t.node? target := by
  obtain ⟨old, held⟩ := held_of_free h.free
  obtain ⟨_, held_draft⟩ := held_of_free h.free_draft
  generalize content : (WorkUnit.codec.list.encode us).pretty.toUTF8 = bytes
  have slash := endsInSlash_draftPath f
  have written := write_located h.located_draft slash held_draft bytes
  have drafted : KeepsDirectories t (t.put draft (.file bytes)) :=
    keepsDirectories_put h.free_draft
  have present : (t.put draft (.file bytes)).node? draft = some (.file bytes) :=
    node?_put_self h.free_draft
  have there : (t.put draft (.file bytes)).node? place = t.node? place := node?_put_of_ne h.apart
  have moved := rename_located (drafted.locate h.located_draft) slash present
    (drafted.locate h.located) h.bare (there ▸ held)
  have gone : KeepsDirectories (t.put draft (.file bytes))
      ((t.put draft (.file bytes)).erase draft) := keepsDirectories_erase (by simp [present])
  have free : ((t.put draft (.file bytes)).erase draft).node? place ≠ some .directory := by
    rw [node?_erase_of_ne h.apart, there]
    exact h.free
  have kept : KeepsDirectories t
      (((t.put draft (.file bytes)).erase draft).put place (.file bytes)) :=
    (drafted.trans gone).trans (keepsDirectories_put free)
  have flushed : f.flush t us =
      (.ok (), ((t.put draft (.file bytes)).erase draft).put place (.file bytes)) := by
    rw [RecordFile.flush, content, written]
    dsimp only
    rw [moved]
  refine ⟨_, flushed, ⟨kept.locate h.located, kept.locate h.located_draft, h.bare, h.apart, ?_, ?_,
    us, load_flush flushed⟩, load_flush flushed, kept, ?_⟩
  · simp [node?_put_self free]
  · simp [node?_put_of_ne h.apart.symm, node?_erase_self (not_around h.free_draft)]
  · intro target other other'
    rw [node?_put_of_ne other, node?_erase_of_ne other', node?_put_of_ne other']

end Stands

end RecordFile

/-! ### Files as a storage -/

namespace Vault

variable {d : LogDirectory} {dir place draft : Place} {f : RecordFile} {t t' : FileTree}
  {id : UnitId} {c : Checkpoint} {cs cs' : List Checkpoint}

/-- Logs and records are in files, which are as they should be. -/
def Filed (d : LogDirectory) (dir : Place) (f : RecordFile) (place draft : Place) (v : Vault) : Prop :=
  ∃ t, v = .files t d f ∧ d.Stands dir t ∧ f.Stands place draft t

/-- No log has the name of the records or of their draft. -/
def Apart (dir place draft : Place) : Prop :=
  ∀ id, key place ≠ key (dir ++ [LogDirectory.fileName id]) ∧
    key draft ≠ key (dir ++ [LogDirectory.fileName id])

section

variable (apart : Apart dir place draft) (logs : d.Stands dir t) (records : f.Stands place draft t)
include apart logs records

theorem change_log (before : LogDirectory.Holds t (dir ++ [LogDirectory.fileName id]) cs)
    (after : LogDirectory.Holds t' (dir ++ [LogDirectory.fileName id]) cs')
    (same : ∀ target, key target ≠ key (dir ++ [LogDirectory.fileName id]) →
      t'.node? target = t.node? target) :
    Filed d dir f place draft (files t' d f) ∧ f.load t' = f.load t := by
  obtain ⟨records, load⟩ := records.change (keepsDirectories_of_same before.ne_directory same)
    (same _ (apart id).1) (same _ (apart id).2)
  exact ⟨⟨t', rfl, logs.change_log before after same, records⟩, load⟩

/-- A checkpoint is refused and nothing changes, or what is read back of it joins the log. -/
theorem save_files (c : Checkpoint) :
    (∃ refusal, Storage.save c (files t d f) = (.error refusal, files t d f)) ∨
      ∃ t', Storage.save c (files t d f) = (.ok (), files t' d f) ∧
        Filed d dir f place draft (files t' d f) ∧ f.load t' = f.load t ∧
        Checkpoint.iterationOf (d.logs t c.unitId).getLast? < c.iteration ∧
        d.logs t' = Function.update (d.logs t) c.unitId (d.logs t c.unitId ++ c.reread.toList) := by
  by_cases takes : d.Takes c.unitId
  · obtain ⟨cs, holds⟩ := logs.held c.unitId
    obtain ⟨t', saved, holds', same⟩ := logs.save_eq takes holds
    rw [Checkpoint.checkNewer_eq] at saved
    by_cases newer : Checkpoint.iterationOf (d.logs t c.unitId).getLast? < c.iteration
    · rw [if_pos newer] at saved
      obtain ⟨filed, load⟩ := change_log apart logs records holds holds' same
      refine .inr ⟨t', ?_, filed, load, newer, logs.logs_append takes holds newer holds' same⟩
      simp only [Storage.save, save, saved, Except.map]
    · rw [if_neg newer] at saved
      refine .inl ⟨.staleIteration c.unitId c.iteration
        (Checkpoint.iterationOf (d.logs t c.unitId).getLast?), ?_⟩
      simp only [Storage.save, save, saved, Except.map]
  · refine .inl ⟨FileError.refused.refusal, ?_⟩
    simp only [Storage.save, save, LogDirectory.save, LogDirectory.latest?, LogDirectory.history,
      logs.refused takes, Except.error_bind, Except.map]

theorem deleteAll_files (id : UnitId) :
    (∃ refusal, Storage.deleteAll id (files t d f) = (.error refusal, files t d f)) ∨
      ∃ t', Storage.deleteAll id (files t d f) = (.ok (), files t' d f) ∧
        Filed d dir f place draft (files t' d f) ∧ f.load t' = f.load t ∧
        (Checkpoint.Settled Checkpoint.reread (d.logs t) →
          d.logs t' = Function.update (d.logs t) id []) := by
  by_cases takes : d.Takes id
  · obtain ⟨cs, holds⟩ := logs.held id
    obtain ⟨t', deleted, holds', same⟩ := holds.deleteAll (logs.located takes)
    obtain ⟨filed, load⟩ := change_log apart logs records holds holds' same
    refine .inr ⟨t', ?_, filed, load, fun clean =>
      logs.logs_deleteAll clean takes holds holds' same⟩
    simp only [Storage.deleteAll, deleteAll, deleted]
  · refine .inl ⟨FileError.refused.refusal, ?_⟩
    simp only [Storage.deleteAll, deleteAll, LogDirectory.deleteAll, logs.refused takes,
      Except.error_bind]

theorem flush_files (us : List WorkUnit) : ∃ t', Storage.flush us (files t d f) =
      (.ok (), files t' d f) ∧
    Filed d dir f place draft (files t' d f) ∧ f.load t' = .ok us ∧ d.logs t' = d.logs t := by
  obtain ⟨t', flushed, records', load, kept, same⟩ := records.flush us
  have unchanged (id : UnitId) : t'.node? (dir ++ [LogDirectory.fileName id]) =
      t.node? (dir ++ [LogDirectory.fileName id]) :=
    same _ (apart id).1.symm (apart id).2.symm
  have logs' : d.Stands dir t' := by
    refine logs.change kept fun id => ?_
    obtain ⟨cs, holds⟩ := logs.held id
    exact ⟨cs, holds.congr (unchanged id)⟩
  refine ⟨t', ?_, ⟨t', rfl, logs', records'⟩, load, funext fun id => ?_⟩
  · simp only [Storage.flush, flush, flushed]
  · exact logs.logs_congr logs' (unchanged id)

end

theorem keeping_files (apart : Apart dir place draft) : Storage.Keeping
    (Filed d dir f place draft) Checkpoint.reread Vault.history Vault.onFile where
  latest? := by
    rintro _ id ⟨t, rfl, logs, records⟩
    exact ⟨⟨t, rfl, logs, records⟩, rfl⟩
  load := by
    rintro _ ⟨t, rfl, logs, records⟩
    exact ⟨⟨t, rfl, logs, records⟩, rfl⟩
  save := by
    rintro _ c ⟨t, rfl, logs, records⟩
    obtain ⟨refusal, refused⟩ | ⟨t', saved, filed, _⟩ := save_files apart logs records c
    · rw [refused]
      exact ⟨⟨t, rfl, logs, records⟩, fun _ _ => rfl⟩
    · rw [saved]
      exact ⟨filed, nofun⟩
  deleteAll := by
    rintro _ id ⟨t, rfl, logs, records⟩
    obtain ⟨refusal, refused⟩ | ⟨t', deleted, filed, _⟩ := deleteAll_files apart logs records id
    · rw [refused]
      exact ⟨⟨t, rfl, logs, records⟩, fun _ _ => rfl⟩
    · rw [deleted]
      exact ⟨filed, nofun⟩
  flush := by
    rintro _ us ⟨t, rfl, logs, records⟩
    obtain ⟨t', flushed, filed, _, same⟩ := flush_files apart logs records us
    rw [flushed]
    exact ⟨filed, same⟩
  newest := by
    rintro _ id latest ⟨t, rfl, logs, records⟩ read
    exact LogDirectory.latest?_eq_ok read
  retimed := ⟨_, Checkpoint.retimed_reread⟩
  added := by
    rintro _ c ⟨t, rfl, logs, records⟩ accepted
    obtain ⟨refusal, refused⟩ | ⟨t', saved, _, _, newer, added⟩ := save_files apart logs records c
    · rw [refused] at accepted
      cases accepted
    · rw [saved]
      exact ⟨newer, added⟩
  emptied := by
    rintro _ id ⟨t, rfl, logs, records⟩ clean accepted
    obtain ⟨refusal, refused⟩ | ⟨t', deleted, _, _, emptied⟩ := deleteAll_files apart logs records id
    · rw [refused] at accepted
      cases accepted
    · rw [deleted]
      exact emptied clean
  found := by
    rintro _ us ⟨t, rfl, logs, records⟩ loaded
    have load : f.load t = .ok us := loaded
    rw [onFile, load]
    rfl
  written := by
    rintro _ us ⟨t, rfl, logs, records⟩ _
    obtain ⟨t', flushed, _, load, _⟩ := flush_files apart logs records us
    rw [flushed, onFile, load]
    rfl
  unwritten := by
    rintro _ us refusal ⟨t, rfl, logs, records⟩ refused
    obtain ⟨t', flushed, _⟩ := flush_files apart logs records us
    rw [flushed] at refused
    cases refused
  elsewhere := by
    rintro _ ⟨t, rfl, logs, records⟩
    refine ⟨fun _ => rfl, fun c => ?_, fun id => ?_⟩
    · obtain ⟨refusal, refused⟩ | ⟨t', saved, _, load, _⟩ := save_files apart logs records c
      · rw [refused]
      · rw [saved, onFile, onFile, load]
    · obtain ⟨refusal, refused⟩ | ⟨t', deleted, _, load, _⟩ := deleteAll_files apart logs records id
      · rw [refused]
      · rw [deleted, onFile, onFile, load]

theorem reliable_files (apart : Apart dir place draft) : Storage.Reliable
    (Filed d dir f place draft) d.Takes Vault.history Vault.onFile where
  toRecording := (keeping_files apart).toRecording
  reads := by
    rintro _ id ⟨t, rfl, logs, records⟩ takes
    exact ⟨_, logs.latest? takes⟩
  loads := by
    rintro _ ⟨t, rfl, logs, records⟩
    exact records.loads
  flushes := by
    rintro _ us ⟨t, rfl, logs, records⟩
    obtain ⟨t', flushed, _⟩ := flush_files apart logs records us
    rw [flushed]

theorem steady_files (apart : Apart dir place draft) : Storage.Steady
    (Filed d dir f place draft) d.Takes Checkpoint.reread Vault.history where
  toLogging := (keeping_files apart).toLogging
  reads := (reliable_files apart).reads
  saves := by
    rintro _ c ⟨t, rfl, logs, records⟩ takes
    obtain ⟨cs, holds⟩ := logs.held c.unitId
    obtain ⟨t', saved, _⟩ := logs.save_eq takes holds
    simp only [Storage.save, save, saved]
    change _ = Checkpoint.checkNewer c.unitId c.iteration
      (Checkpoint.iterationOf (d.logs t c.unitId).getLast?)
    cases Checkpoint.checkNewer c.unitId c.iteration
      (Checkpoint.iterationOf (d.logs t c.unitId).getLast?) <;> rfl
  deletes := by
    rintro _ id ⟨t, rfl, logs, records⟩ takes
    obtain ⟨cs, holds⟩ := logs.held id
    obtain ⟨t', deleted, _⟩ := holds.deleteAll (logs.located takes)
    simp only [Storage.deleteAll, deleteAll, deleted]

/-! ### New files -/

/-- A directory for logs, and nothing else. -/
def newFiles : Vault :=
  .files (FileTree.empty.put ["checkpoints"] .directory) ⟨"checkpoints"⟩ ⟨"units.json"⟩

theorem key_log (name : String) : key (["checkpoints"] ++ [name]) = "checkpoints/" ++ name := by
  rw [key, String.intercalate_append_of_ne_nil (by simp) (by simp), String.intercalate_singleton,
    String.intercalate_singleton]
  rfl

theorem apart_newFiles : Apart ["checkpoints"] ["units.json"] ["units.json.tmp"] := by
  intro id
  constructor
  all_goals
    rw [key_log]
    intro same
    have first := congrArg (·.toList.head?) same
    simp [key] at first

theorem absent_newFiles (id : UnitId) :
    (FileTree.empty.put ["checkpoints"] .directory).node?
      (["checkpoints"] ++ [LogDirectory.fileName id]) = none := by
  rw [node?_put_of_ne]
  · rfl
  · rw [key_log]
    intro same
    have length := congrArg String.length same
    rw [String.length_append] at length
    change 12 + _ = 11 at length
    omega

theorem filed_newFiles : Filed ⟨"checkpoints"⟩ ["checkpoints"] ⟨"units.json"⟩ ["units.json"]
    ["units.json.tmp"] newFiles := by
  refine ⟨_, rfl, ⟨by decide +kernel, ?_, fun id => ⟨[], .absent (absent_newFiles id)⟩⟩,
    ⟨by decide +kernel, by decide +kernel, by decide, by decide, ?_, ?_, [], by decide +kernel⟩⟩
  · exact node?_put_self fun directory => nomatch directory
  all_goals
    rw [node?_put_of_ne (by decide)]
    exact nofun

theorem history_newFiles (id : UnitId) : newFiles.history id = [] := by
  obtain ⟨t, files, logs, _⟩ := filed_newFiles
  cases files
  exact logs.logs_absent (absent_newFiles id)

end Vault

end BuildAdmission
