import BuildAdmission.Proofs.Codec.Basic
import BuildAdmission.Proofs.Except
import BuildAdmission.Proofs.Files.Tree
import BuildAdmission.Proofs.Json.Torn
import BuildAdmission.Proofs.Json.Writer
import BuildAdmission.Storage.Log
import Mathlib.Data.List.DropRight
import Mathlib.Data.List.Sort

namespace BuildAdmission

/-! ### A line -/

namespace Codec

variable {α : Type} {codec : Codec α} {a : α} {s : String} {x cs : List Char}

theorem decodeText_blanks (hx : Json.skipBlanks x = []) (h : codec.decodeText (.ofList cs) = .ok a) :
    codec.decodeText (.ofList (x ++ cs)) = .ok a := by
  have complete := (decodeText_eq_ok.1 h).2
  rwa [decodeText_eq_ok, Json.read_blanks hx complete, ← decodeText_eq_ok]

end Codec

namespace LogDirectory

variable {d : LogDirectory} {t t' : FileTree} {c : Checkpoint} {id : UnitId} {s : String}
  {x cs : List Char}

def onLine (cs : List Char) : Option Checkpoint := (Checkpoint.codec.decodeText (.ofList cs)).toOption

theorem onLine_eq_some : onLine cs = some c ↔ Checkpoint.codec.decodeText (.ofList cs) = .ok c := by
  rw [onLine]
  cases Checkpoint.codec.decodeText (.ofList cs) <;> simp [Except.toOption]

theorem onLine_eq_none (h : (Json.read (.ofList cs)).complete = false) : onLine cs = none := by
  rw [Option.eq_none_iff_forall_not_mem]
  intro c hc
  have complete := (Codec.decodeText_eq_ok.1 (onLine_eq_some.1 hc)).2
  cases h.symm.trans complete

theorem onLine_blank (h : Json.skipBlanks cs = []) : onLine cs = none := by
  apply onLine_eq_none
  have nothing : Json.readValue (2 * cs.length + 2) cs = (.cut, none) := by
    simp [Json.readValue, h, Json.readNumber, Json.readUnsigned, Json.readWhole, Json.spanDigits]
  rw [Json.read_ofList, nothing]
  rfl

def written (c : Checkpoint) : List Char := (Checkpoint.codec.encode c).write

theorem toList_line (c : Checkpoint) : (line c).toList = written c ++ ['\n'] := by
  rw [line, String.toList_append]
  exact congrArg (· ++ ['\n']) String.toList_ofList

theorem newline_not_mem_written (c : Checkpoint) : '\n' ∉ written c :=
  fun h => absurd (Json.plain_write _ _ h) (by decide)

theorem written_start (c : Checkpoint) : ∃ r, written c = '{' :: '"' :: 'u' :: r := ⟨_, rfl⟩

theorem onLine_written (reads : Checkpoint.codec.decodeText (Checkpoint.codec.encodeText c) = .ok c)
    (hx : Json.skipBlanks x = []) : onLine (x ++ written c) = some c :=
  onLine_eq_some.2 (Codec.decodeText_blanks hx reads)

/-- A checkpoint that is written behind an open line is lost with it. -/
theorem onLine_glued (reads : Checkpoint.codec.decodeText (Checkpoint.codec.encodeText c) = .ok c)
    (hx : Json.skipBlanks x ≠ []) : onLine (x ++ written c) = none := by
  obtain ⟨r, start⟩ := written_start c
  exact onLine_eq_none (Json.read_torn_complete start (Codec.decodeText_eq_ok.1 reads).2 hx)

/-! ### The lines of a text -/

/-- The text up to its last line break. -/
def endedLines (s : String) : String := .ofList (s.toList.rdropWhile (· ≠ '\n'))

/-- What stands behind the last line break of a text. -/
def openLine (s : String) : List Char := s.toList.rtakeWhile (· ≠ '\n')

theorem checkpointsIn_eq (s : String) :
    checkpointsIn s = (s.toList.splitOn '\n').filterMap onLine := by
  rw [checkpointsIn, splitText, List.filterMap_map]
  rfl

theorem checkpointsIn_break (cs x : List Char) :
    checkpointsIn (.ofList (cs ++ '\n' :: x)) =
      checkpointsIn (.ofList cs) ++ checkpointsIn (.ofList x) := by
  simp only [checkpointsIn_eq, String.toList_ofList]
  rw [List.splitOn_append_cons_of_beq _ _ (by decide), List.filterMap_append]

theorem checkpointsIn_line (h : '\n' ∉ x) : checkpointsIn (.ofList x) = (onLine x).toList := by
  have single : x.splitOn '\n' = [x] := by
    apply List.splitOnP_eq_singleton
    rintro a ha
    exact beq_eq_false_iff_ne.2 (ne_of_mem_of_not_mem ha h)
  rw [checkpointsIn_eq, String.toList_ofList, single]
  cases hx : onLine x <;> simp [hx]

theorem checkpointsIn_empty : checkpointsIn (.ofList []) = [] := by
  have line := checkpointsIn_line (x := []) (by decide)
  rwa [onLine_blank rfl] at line

theorem newline_not_mem_openLine (s : String) : '\n' ∉ openLine s := by
  intro h
  have := List.mem_rtakeWhile_imp h
  cases this

theorem checkpointsIn_endedLines (s : String) (h : '\n' ∉ x) :
    checkpointsIn (.ofList (s.toList.rdropWhile (· ≠ '\n') ++ x)) =
      checkpointsIn (endedLines s) ++ (onLine x).toList := by
  rw [endedLines]
  rcases List.eq_nil_or_concat (s.toList.rdropWhile (· ≠ '\n')) with none | ⟨cs, b, some⟩
  · rw [none, List.nil_append, checkpointsIn_line h, checkpointsIn_empty, List.nil_append]
  · rw [List.concat_eq_append] at some
    have break_ : b = '\n' := by
      have last := List.rdropWhile_last_not (· ≠ '\n') s.toList (by rw [some]; simp)
      rw [List.getLast_congr _ (by simp) some] at last
      simpa using last
    rw [some, break_, List.append_assoc, List.singleton_append, checkpointsIn_break,
      checkpointsIn_break, checkpointsIn_line h, checkpointsIn_empty, List.append_nil]

theorem checkpointsIn_openLine (s : String) :
    checkpointsIn s = checkpointsIn (endedLines s) ++ (onLine (openLine s)).toList := by
  rw [← checkpointsIn_endedLines s (newline_not_mem_openLine s), openLine,
    List.rdropWhile_append_rtakeWhile, String.ofList_toList]

theorem checkpointsIn_append_line (s : String) (c : Checkpoint) :
    checkpointsIn (s ++ line c) =
      checkpointsIn (endedLines s) ++ (onLine (openLine s ++ written c)).toList := by
  have split : s ++ line c =
      .ofList (s.toList.rdropWhile (· ≠ '\n') ++ (openLine s ++ written c) ++ '\n' :: []) := by
    apply String.ext
    rw [String.toList_append, toList_line, String.toList_ofList, ← List.append_assoc, openLine,
      ← List.append_assoc, List.rdropWhile_append_rtakeWhile]
  have unbroken : '\n' ∉ openLine s ++ written c := by
    rw [List.mem_append]
    exact not_or.2 ⟨newline_not_mem_openLine s, newline_not_mem_written c⟩
  rw [split, checkpointsIn_break, checkpointsIn_endedLines s unbroken, checkpointsIn_empty,
    List.append_nil]

/-! ### The order of a history -/

theorem iteration_trans (a b c : Checkpoint) (h : decide (a.iteration ≤ b.iteration) = true)
    (h' : decide (b.iteration ≤ c.iteration) = true) : decide (a.iteration ≤ c.iteration) = true :=
  decide_eq_true (UInt32.le_trans (of_decide_eq_true h) (of_decide_eq_true h'))

theorem iteration_total (a b : Checkpoint) :
    (decide (a.iteration ≤ b.iteration) || decide (b.iteration ≤ a.iteration)) = true := by
  rw [Bool.or_eq_true, decide_eq_true_iff, decide_eq_true_iff]
  exact UInt32.le_total _ _

theorem sortByIteration_perm (cs : List Checkpoint) : (sortByIteration cs).Perm cs :=
  List.mergeSort_perm ..

theorem sorted_sortByIteration (cs : List Checkpoint) :
    (sortByIteration cs).Pairwise fun a b => a.iteration ≤ b.iteration := by
  exact (List.pairwise_mergeSort iteration_trans iteration_total cs).imp of_decide_eq_true

theorem sortByIteration_cons (a : Checkpoint) (cs : List Checkpoint) :
    sortByIteration (a :: cs) =
      (sortByIteration cs).orderedInsert (fun a b => a.iteration ≤ b.iteration) a := by
  obtain ⟨front, back, (whole : sortByIteration (a :: cs) = _),
      (others : sortByIteration cs = _), older⟩ :=
    List.mergeSort_cons iteration_trans iteration_total a cs
  have newer : ∀ b ∈ back, a.iteration ≤ b.iteration := by
    have sorted := sorted_sortByIteration (a :: cs)
    rw [whole] at sorted
    exact (List.pairwise_cons.1 (List.pairwise_append.1 sorted).2.1).1
  rw [whole, others]
  clear whole others
  induction front with
  | nil =>
      cases back with
      | nil => rfl
      | cons b back => simp [newer]
  | cons b front ih =>
      have below : ¬ a.iteration ≤ b.iteration := by simpa using older b (by simp)
      rw [List.cons_append, List.cons_append, List.orderedInsert_cons, if_neg below,
        ih fun b hb => older b (List.mem_cons_of_mem _ hb)]

theorem orderedInsert_append {r : Checkpoint → Checkpoint → Prop} [DecidableRel r] {a : Checkpoint}
    (newest : r a c) (cs : List Checkpoint) :
    (cs ++ [c]).orderedInsert r a = cs.orderedInsert r a ++ [c] := by
  induction cs with
  | nil => simp [newest]
  | cons b cs ih =>
      rw [List.cons_append, List.orderedInsert_cons, List.orderedInsert_cons, ih]
      split <;> rfl

theorem sortByIteration_append {cs : List Checkpoint}
    (newest : ∀ a ∈ cs, a.iteration ≤ c.iteration) :
    sortByIteration (cs ++ [c]) = sortByIteration cs ++ [c] := by
  induction cs with
  | nil => simp [sortByIteration]
  | cons a cs ih =>
      obtain ⟨newer, others⟩ := List.forall_mem_cons.1 newest
      rw [List.cons_append, sortByIteration_cons, ih others, orderedInsert_append newer,
        sortByIteration_cons]

/-! ### A saved checkpoint -/

/-- The text of the log that a unit may share with others. Without a file it is empty. -/
def text? (d : LogDirectory) (t : FileTree) (id : UnitId) : Option String :=
  match t.read (d.filePath id) with
  | .ok content => String.fromUTF8? content
  | .error .notFound => some ""
  | .error .refused => none

def historyIn (id : UnitId) (s : String) : List Checkpoint :=
  sortByIteration ((checkpointsIn s).filter (·.unitId = id))

theorem history_of_text (h : d.text? t id = some s) : d.history t id = .ok (historyIn id s) := by
  unfold text? at h
  unfold history readAll checkpointsOf
  split at h
  · next content read => simp [read, h, historyIn, Except.map]
  · next read =>
    cases h
    simp only [read, Except.ok_bind, Option.getD_none, List.filter_nil, historyIn]
    rw [show checkpointsIn "" = [] from checkpointsIn_empty, List.filter_nil]
  · cases h

theorem text_of_history {cs : List Checkpoint} (h : d.history t id = .ok cs) :
    ∃ s, d.text? t id = some s := by
  obtain ⟨all, hall, _⟩ := Except.bind_eq_ok_iff.1 h
  unfold readAll checkpointsOf at hall
  unfold text?
  split at hall
  · next content read =>
    simp only [read]
    split at hall
    · next s held => exact ⟨s, held⟩
    · cases hall
  · next read =>
    simp only [read]
    exact ⟨"", rfl⟩
  · cases hall

theorem fromUTF8?_eq_some {content : ByteArray} :
    String.fromUTF8? content = some s ↔ content = s.toUTF8 := by
  constructor
  · intro h
    unfold String.fromUTF8? at h
    split at h
    · cases h
      rfl
    · cases h
  · rintro rfl
    exact dif_pos s.isValidUTF8

/-- A save that is accepted adds a line to the text, and the checkpoint is newer than all others. -/
theorem save_cases (h : d.save t c = .ok t') : ∃ s, d.text? t c.unitId = some s ∧
    d.text? t' c.unitId = some (s ++ line c) ∧
    Checkpoint.iterationOf (historyIn c.unitId s).getLast? < c.iteration := by
  obtain ⟨latest, hlatest, h⟩ := Except.bind_eq_ok_iff.1 h
  obtain ⟨cs, history, rfl⟩ := Except.map_eq_ok_iff.1 hlatest
  obtain ⟨s, text⟩ := text_of_history history
  cases (history_of_text text).symm.trans history
  obtain ⟨_, newer, h⟩ := Except.bind_eq_ok_iff.1 h
  refine ⟨s, text, ?_, ?_⟩
  · split at h
    · next appended =>
      cases h
      obtain ⟨old, held, read⟩ := FileTree.read_append appended
      have old_text : old = s.toUTF8 := by
        unfold text? at text
        rcases held with held | ⟨held, rfl⟩
        · rw [held] at text
          exact fromUTF8?_eq_some.1 text
        · rw [held] at text
          cases text
          rfl
      rw [text?, read]
      refine fromUTF8?_eq_some.2 ?_
      rw [old_text, String.toUTF8_eq_toByteArray, String.toUTF8_eq_toByteArray,
        String.toUTF8_eq_toByteArray, String.toByteArray_append]
    · cases h
  · unfold Checkpoint.checkNewer at newer
    split at newer
    · cases newer
    · next later => exact UInt32.not_le.1 later

theorem mem_historyIn {a : Checkpoint} :
    a ∈ historyIn id s ↔ a ∈ checkpointsIn s ∧ a.unitId = id := by
  rw [historyIn, (sortByIteration_perm _).mem_iff, List.mem_filter, decide_eq_true_iff]

theorem le_last {a : Checkpoint} {log : List Checkpoint}
    (sorted : log.Pairwise fun a b => a.iteration ≤ b.iteration) (ha : a ∈ log) :
    a.iteration ≤ Checkpoint.iterationOf log.getLast? := by
  rcases List.eq_nil_or_concat log with rfl | ⟨front, b, rfl⟩
  · cases ha
  · rw [List.concat_eq_append] at ha sorted ⊢
    rw [List.getLast?_concat]
    rcases List.mem_append.1 ha with ha | ha
    · exact (List.pairwise_append.1 sorted).2.2 a ha b (List.mem_singleton_self b)
    · cases List.mem_singleton.1 ha
      exact UInt32.le_refl _

theorem le_latest {a : Checkpoint} (ha : a ∈ historyIn id s) :
    a.iteration ≤ Checkpoint.iterationOf (historyIn id s).getLast? :=
  le_last (sorted_sortByIteration _) ha

theorem historyIn_append_line (reads : Checkpoint.codec.decodeText (Checkpoint.codec.encodeText c) = .ok c)
    (newer : Checkpoint.iterationOf (historyIn c.unitId s).getLast? < c.iteration)
    (ended : Json.skipBlanks (openLine s) = []) :
    historyIn c.unitId (s ++ line c) = historyIn c.unitId s ++ [c] := by
  have lines : checkpointsIn (s ++ line c) = checkpointsIn s ++ [c] := by
    rw [checkpointsIn_append_line, checkpointsIn_openLine s, onLine_written reads ended,
      onLine_blank ended, Option.toList_none, List.append_nil, Option.toList_some]
  have newest : ∀ a ∈ (checkpointsIn s).filter (·.unitId = c.unitId), a.iteration ≤ c.iteration := by
    intro a ha
    rw [List.mem_filter, decide_eq_true_iff] at ha
    exact UInt32.le_trans (le_latest (mem_historyIn.2 ha)) (UInt32.le_of_lt newer)
  have own : [c].filter (·.unitId = c.unitId) = [c] := by simp
  rw [historyIn, lines, List.filter_append, own]
  exact sortByIteration_append newest

theorem historyIn_glued_line (reads : Checkpoint.codec.decodeText (Checkpoint.codec.encodeText c) = .ok c)
    (torn : Json.skipBlanks (openLine s) ≠ []) :
    historyIn c.unitId (s ++ line c) = historyIn c.unitId (endedLines s) := by
  rw [historyIn, checkpointsIn_append_line, onLine_glued reads torn, Option.toList_none,
    List.append_nil, historyIn]

/-- A saved checkpoint joins the history of its unit if and only if the log ended in a whole line.
Behind a torn line it is lost, and so is what could be read of the torn line. -/
theorem save_kept_iff (saved : d.save t c = .ok t')
    (reads : Checkpoint.codec.decodeText (Checkpoint.codec.encodeText c) = .ok c) :
    ∃ s before, d.text? t c.unitId = some s ∧ d.history t c.unitId = .ok before ∧
      (d.history t' c.unitId = .ok (before ++ [c]) ↔ Json.skipBlanks (openLine s) = []) ∧
      (d.latest? t' c.unitId = .ok (some c) ↔ Json.skipBlanks (openLine s) = []) ∧
      (Json.skipBlanks (openLine s) ≠ [] →
        d.history t' c.unitId = .ok (historyIn c.unitId (endedLines s))) := by
  obtain ⟨s, text, text', newer⟩ := save_cases saved
  have after := history_of_text text'
  have kept (ended : Json.skipBlanks (openLine s) = []) :
      d.history t' c.unitId = .ok (historyIn c.unitId s ++ [c]) := by
    rw [after, historyIn_append_line reads newer ended]
  have lost (torn : Json.skipBlanks (openLine s) ≠ []) :
      d.history t' c.unitId = .ok (historyIn c.unitId (endedLines s)) := by
    rw [after, historyIn_glued_line reads torn]
  have latest (h : d.history t' c.unitId = .ok (historyIn c.unitId s ++ [c])) :
      d.latest? t' c.unitId = .ok (some c) := by
    rw [latest?, h]
    simp [Except.map]
  have whole (h : d.latest? t' c.unitId = .ok (some c)) : Json.skipBlanks (openLine s) = [] := by
    by_contra torn
    -- the checkpoint would stand on an ended line, where it is older than itself
    rw [latest?, lost torn] at h
    have last : (historyIn c.unitId (endedLines s)).getLast? = some c := by simpa [Except.map] using h
    have hc := (mem_historyIn.1 (List.mem_of_getLast? last)).1
    have present : c ∈ historyIn c.unitId s := by
      rw [mem_historyIn, checkpointsIn_openLine]
      exact ⟨List.mem_append_left _ hc, rfl⟩
    exact UInt32.not_lt.2 (le_latest present) newer
  refine ⟨s, historyIn c.unitId s, text, history_of_text text, ?_, ?_, lost⟩
  · exact ⟨fun h => whole (latest h), kept⟩
  · exact ⟨whole, fun ended => latest (kept ended)⟩

def treeWith (log : String) : FileTree :=
  (FileTree.empty.put ["logs"] .directory).put ["logs", "api.jsonl"] (.file log.toUTF8)

def sample : Checkpoint := ⟨"api", 1, ⟨[], ["link"], [], ⟨0⟩, ⟨0, 0⟩⟩, .epoch⟩

theorem sample_reads : Checkpoint.codec.decodeText (Checkpoint.codec.encodeText sample) = .ok sample := by
  rw [Codec.encodeText, Json.compress, Codec.decodeText_eq_ok, Json.read_ofList]
  decide +kernel

theorem save_kept_ended : ∃ t', save ⟨"logs"⟩ (treeWith "\x7b\"unitId\"\n") sample = .ok t' ∧
    history ⟨"logs"⟩ t' sample.unitId = .ok [sample] ∧
    latest? ⟨"logs"⟩ t' sample.unitId = .ok (some sample) := by
  obtain ⟨t', saved⟩ := Except.exists_of_isOk
    (by decide +kernel : (save ⟨"logs"⟩ (treeWith "\x7b\"unitId\"\n") sample).isOk)
  obtain ⟨s, before, text, history, kept, latest, _⟩ := save_kept_iff saved sample_reads
  have log : text? ⟨"logs"⟩ (treeWith "\x7b\"unitId\"\n") sample.unitId =
      some "\x7b\"unitId\"\n" := by decide +kernel
  have none : LogDirectory.history ⟨"logs"⟩ (treeWith "\x7b\"unitId\"\n") sample.unitId = .ok [] := by
    decide +kernel
  cases log.symm.trans text
  cases none.symm.trans history
  have ended : Json.skipBlanks (openLine "\x7b\"unitId\"\n") = [] := by decide +kernel
  exact ⟨t', saved, kept.2 ended, latest.2 ended⟩

/-- Behind a torn line it is lost. -/
theorem save_lost_torn : ∃ t', save ⟨"logs"⟩ (treeWith "\x7b\"unitId\"") sample = .ok t' ∧
    Checkpoint.codec.decodeText (Checkpoint.codec.encodeText sample) = .ok sample ∧
    history ⟨"logs"⟩ (treeWith "\x7b\"unitId\"") sample.unitId = .ok [] ∧
    history ⟨"logs"⟩ t' sample.unitId = .ok [] ∧
    latest? ⟨"logs"⟩ t' sample.unitId = .ok none := by
  obtain ⟨t', saved⟩ := Except.exists_of_isOk
    (by decide +kernel : (save ⟨"logs"⟩ (treeWith "\x7b\"unitId\"") sample).isOk)
  obtain ⟨s, text, text', _⟩ := save_cases saved
  have log : text? ⟨"logs"⟩ (treeWith "\x7b\"unitId\"") sample.unitId =
      some "\x7b\"unitId\"" := by decide +kernel
  cases log.symm.trans text
  have after : history ⟨"logs"⟩ t' sample.unitId = .ok [] := by
    rw [history_of_text text', historyIn_glued_line sample_reads (by decide +kernel)]
    decide +kernel
  refine ⟨t', saved, sample_reads, by decide +kernel, after, ?_⟩
  rw [latest?, after]
  rfl

end LogDirectory

end BuildAdmission
