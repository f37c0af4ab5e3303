import BuildAdmission.Proofs.Storage.Keeping
import BuildAdmission.Proofs.Storage.SharedLog

namespace BuildAdmission

/-- The calls of a place that keeps checkpoints. -/
inductive LogCall where
  | save (c : Checkpoint)
  | latest (id : UnitId)
  | history (id : UnitId)
  | latestIteration (id : UnitId)
  | deleteAll (id : UnitId)
  | reopen

inductive LogAnswer where
  | done
  | latest (c? : Option Checkpoint)
  | history (log : List Checkpoint)
  | latestIteration (iteration : UInt32)
  deriving DecidableEq

/-- The iterations of a log are positive and grow. -/
structure Checkpoint.Ascending (log : List Checkpoint) : Prop where
  positive : ∀ c ∈ log, 0 < c.iteration
  increasing : log.Pairwise fun a b => a.iteration < b.iteration

namespace LogCall

/-- The unit whose log is asked for. -/
def unit? : LogCall → Option UnitId
  | save c => some c.unitId
  | latest id | history id | latestIteration id | deleteAll id => some id
  | reopen => none

def saved? : LogCall → Option Checkpoint
  | save c => some c
  | _ => none

/-- What the call does to the logs of the units. A checkpoint is appended if its iteration exceeds
that of the last one. -/
def onLogs (call : LogCall) : StateM (UnitId → List Checkpoint) (Except Refusal LogAnswer) := fun logs =>
  match call with
  | save c =>
    let last := Checkpoint.iterationOf (logs c.unitId).getLast?
    if last < c.iteration then
      (.ok .done, Function.update logs c.unitId (logs c.unitId ++ [c]))
    else (.error (.staleIteration c.unitId c.iteration last), logs)
  | latest id => (.ok (.latest (logs id).getLast?), logs)
  | history id => (.ok (.history (logs id)), logs)
  | latestIteration id => (.ok (.latestIteration (Checkpoint.iterationOf (logs id).getLast?)), logs)
  | deleteAll id => (.ok .done, Function.update logs id [])
  | reopen => (.ok .done, logs)

/-- What it does to checkpoints in memory, which cannot be opened again. -/
def inMemory (call : LogCall) : StateM CheckpointMemory (Except Refusal LogAnswer) := fun m =>
  match call with
  | save c =>
    let (result, m) := m.save c
    (result.map fun _ => .done, m)
  | latest id => (.ok (.latest (m.latest? id)), m)
  | history id => (.ok (.history (m.history id)), m)
  | latestIteration id => (.ok (.latestIteration (Checkpoint.iterationOf (m.latest? id))), m)
  | deleteAll id => (.ok .done, m.deleteAll id)
  | reopen => (.ok .done, m)

/-- What it does to the logs in a directory, which can be opened again. -/
def inDirectory (call : LogCall) : StateM (LogDirectory × FileTree) (Except Refusal LogAnswer) :=
  fun (d, t) =>
    let change (result : Except Refusal FileTree) := match result with
      | .ok t => (.ok .done, d, t)
      | .error refusal => (.error refusal, d, t)
    match call with
    | save c => change (d.save t c)
    | latest id => ((d.latest? t id).map .latest, d, t)
    | history id => ((d.history t id).map .history, d, t)
    | latestIteration id =>
      ((d.latest? t id).map fun c? => .latestIteration (Checkpoint.iterationOf c?), d, t)
    | deleteAll id => change (d.deleteAll t id)
    | reopen =>
      match LogDirectory.create t d.path with
      | (.ok d, t) => (.ok .done, d, t)
      | (.error refusal, t) => (.error refusal, d, t)

end LogCall

namespace Checkpoint

theorem ascending_nil : Ascending [] := ⟨by simp, .nil⟩

theorem Ascending.sorted {log : List Checkpoint} (h : Ascending log) :
    log.Pairwise fun a b => a.iteration ≤ b.iteration := h.increasing.imp UInt32.le_of_lt

theorem Ascending.append {log : List Checkpoint} {c : Checkpoint} (h : Ascending log)
    (newer : iterationOf log.getLast? < c.iteration) : Ascending (log ++ [c]) := by
  have newest : ∀ a ∈ log, a.iteration < c.iteration := fun a ha =>
    UInt32.lt_of_le_of_lt (LogDirectory.le_last h.sorted ha) newer
  refine ⟨List.forall_mem_append.2 ⟨h.positive, List.forall_mem_singleton.2 ?_⟩, ?_⟩
  · exact UInt32.lt_of_le_of_lt UInt32.zero_le newer
  · exact List.pairwise_append.2 ⟨h.increasing, List.pairwise_singleton .., by simpa using newest⟩

end Checkpoint

namespace LogCall

variable {call : LogCall} {logs : UnitId → List Checkpoint} {m : CheckpointMemory}

theorem onLogs_ascending (call : LogCall) (h : ∀ id, Checkpoint.Ascending (logs id)) :
    ∀ id, Checkpoint.Ascending ((call.onLogs logs).2 id) := by
  have update {id : UnitId} {log : List Checkpoint} (hlog : Checkpoint.Ascending log) :
      ∀ k, Checkpoint.Ascending (Function.update logs id log k) :=
    (Function.forall_update_iff logs fun _ => Checkpoint.Ascending).2 ⟨hlog, fun k _ => h k⟩
  cases call with
  | save c =>
      rw [onLogs]
      split
      · next newer => exact update ((h c.unitId).append newer)
      · exact h
  | deleteAll id => exact update Checkpoint.ascending_nil
  | latest | history | latestIteration | reopen => exact h

/-- Checkpoints in memory are the logs themselves. -/
theorem inMemory_step (call : LogCall) (h : m.history = logs) :
    (call.inMemory m).1 = (call.onLogs logs).1 ∧
      (call.inMemory m).2.history = (call.onLogs logs).2 := by
  subst h
  cases call with
  | save c =>
      have answer := m.save_answer c
      rw [Checkpoint.checkNewer_eq] at answer
      rw [inMemory, onLogs]
      rcases m.save_cases c with ⟨accepted, appended, newer⟩ | ⟨⟨refusal, refused⟩, same⟩
      · rw [CheckpointMemory.latest?] at newer
        rw [if_pos newer]
        exact ⟨congrArg (Except.map _) accepted, appended⟩
      · split at answer
        · cases answer.symm.trans refused
        · next stale =>
          rw [if_neg stale]
          exact ⟨congrArg (Except.map _) answer, same⟩
  | deleteAll id => exact ⟨rfl, m.history_deleteAll id⟩
  | latest | history | latestIteration | reopen => exact ⟨rfl, rfl⟩

end LogCall

/-! ### Checkpoints in a directory -/

namespace LogDirectory

variable {d : LogDirectory} {dir : Place} {accepted : UnitId → Prop} {t t' : FileTree}
  {logs logs' : UnitId → List Checkpoint} {id : UnitId} {c : Checkpoint}

/-- The directory keeps the logs of the units whose names it accepts. A file holds the checkpoints of
all units whose names lead to it. -/
structure Keeps (d : LogDirectory) (dir : Place) (accepted : UnitId → Prop) (t : FileTree)
    (logs : UnitId → List Checkpoint) : Prop where
  made : t.makeDirectory d.path = (.ok (), t)
  located : ∀ id, accepted id → t.locate (d.filePath id) = .ok (dir ++ [fileName id])
  held : ∀ id, accepted id → ∃ cs, Holds t (dir ++ [fileName id]) cs ∧ (∀ c ∈ cs, c.Readable) ∧
    ∀ k, fileName k = fileName id → cs.filter (·.unitId = k) = logs k

namespace Keeps

theorem reopen (h : Keeps d dir accepted t logs) : create t d.path = (.ok d, t) := by
  rw [create, h.made]
  rfl

/-- A change of one file leaves the logs alone that are in others. -/
theorem change (h : Keeps d dir accepted t logs) {place : Place} {cs cs' : List Checkpoint}
    (at_place : place = dir ++ [fileName id]) (before : Holds t place cs) (after : Holds t' place cs')
    (same : ∀ target, FileTree.key target ≠ FileTree.key place → t'.node? target = t.node? target)
    (readable : ∀ c ∈ cs', c.Readable)
    (shared : ∀ k, fileName k = fileName id → cs'.filter (·.unitId = k) = logs' k)
    (others : ∀ k, fileName k ≠ fileName id → logs' k = logs k) :
    Keeps d dir accepted t' logs' := by
  subst at_place
  have kept := FileTree.keepsDirectories_of_same before.ne_directory same
  refine ⟨FileTree.makeDirectory_again h.made kept, fun k hk => kept.locate (h.located k hk), ?_⟩
  intro k hk
  by_cases file : fileName k = fileName id
  · exact ⟨cs', file ▸ after, readable, fun k' hk' => shared k' (hk'.trans file)⟩
  · obtain ⟨ds, holds, hds, own⟩ := h.held k hk
    refine ⟨ds, holds.congr (same _ (key_ne_of_fileName file)), hds, fun k' hk' => ?_⟩
    rw [own k' hk', others k' (hk' ▸ file)]

section

variable (h : Keeps d dir accepted t logs) (ascending : ∀ id, Checkpoint.Ascending (logs id))
include h ascending

theorem history (hid : accepted id) : d.history t id = .ok (logs id) := by
  obtain ⟨cs, holds, readable, own⟩ := h.held id hid
  have sorted : sortByIteration (logs id) = logs id :=
    List.mergeSort_of_pairwise ((ascending id).sorted.imp decide_eq_true)
  rw [holds.history (h.located id hid), Checkpoint.filterMap_reread readable, own id rfl, sorted]

theorem latest? (hid : accepted id) : d.latest? t id = .ok (logs id).getLast? := by
  rw [LogDirectory.latest?, h.history ascending hid]
  rfl

theorem save_stale (hid : accepted c.unitId)
    (stale : ¬ Checkpoint.iterationOf (logs c.unitId).getLast? < c.iteration) :
    d.save t c = .error (.staleIteration c.unitId c.iteration
      (Checkpoint.iterationOf (logs c.unitId).getLast?)) := by
  rw [save, h.latest? ascending hid, Except.ok_bind, Checkpoint.checkNewer_eq, if_neg stale]
  rfl

theorem save (hid : accepted c.unitId) (readable : c.Readable)
    (newer : Checkpoint.iterationOf (logs c.unitId).getLast? < c.iteration) :
    ∃ t', d.save t c = .ok t' ∧
      Keeps d dir accepted t' (Function.update logs c.unitId (logs c.unitId ++ [c])) := by
  obtain ⟨cs, holds, hcs, own⟩ := h.held c.unitId hid
  obtain ⟨t', appended, holds', same⟩ := holds.append (h.located _ hid) c
  refine ⟨t', ?_, h.change rfl holds holds' same ?_ ?_ ?_⟩
  · rw [LogDirectory.save, h.latest? ascending hid, Except.ok_bind, Checkpoint.checkNewer_eq,
      if_pos newer, Except.ok_bind, appended]
  · exact List.forall_mem_append.2 ⟨hcs, List.forall_mem_singleton.2 readable⟩
  · intro k hk
    rw [List.filter_append, own k hk]
    by_cases hc : c.unitId = k
    · subst hc
      simp
    · rw [Function.update_of_ne (Ne.symm hc)]
      simp [hc]
  · exact fun k hk => Function.update_of_ne (fun same => hk (congrArg fileName same)) _ _

end

theorem deleteAll (h : Keeps d dir accepted t logs) (hid : accepted id) :
    ∃ t', d.deleteAll t id = .ok t' ∧ Keeps d dir accepted t' (Function.update logs id []) := by
  obtain ⟨cs, holds, hcs, own⟩ := h.held id hid
  obtain ⟨t', deleted, holds', same⟩ := holds.deleteAll (h.located _ hid)
  rw [Checkpoint.filterMap_reread hcs] at holds'
  refine ⟨t', deleted, h.change rfl holds holds' same ?_ ?_ ?_⟩
  · exact fun c hc => hcs c (List.mem_of_mem_filter hc)
  · intro k hk
    rw [List.filter_filter]
    by_cases same : k = id
    · subst same
      rw [Function.update_self]
      simp
    · rw [Function.update_of_ne same, ← own k hk]
      refine List.filter_congr fun c _ => ?_
      by_cases hc : c.unitId = k <;> simp [hc, same]
  · exact fun k hk => Function.update_of_ne (fun same => hk (congrArg fileName same)) _ _

end Keeps

end LogDirectory

namespace LogCall

/-- What every call keeps, a sequence of calls keeps, and each call answers as the logs say. -/
theorem mapM_agree {τ : Type} (run : LogCall → StateM τ (Except Refusal LogAnswer))
    (Agree : τ → (UnitId → List Checkpoint) → Prop) (calls : List LogCall)
    (step : ∀ call ∈ calls, ∀ v logs, Agree v logs →
      (run call v).1 = (call.onLogs logs).1 ∧ Agree (run call v).2 (call.onLogs logs).2)
    {v : τ} {logs : UnitId → List Checkpoint} (h : Agree v logs) :
    ((calls.mapM run).run v).1 = ((calls.mapM onLogs).run logs).1 ∧
      Agree ((calls.mapM run).run v).2 ((calls.mapM onLogs).run logs).2 := by
  induction calls generalizing v logs with
  | nil => exact ⟨rfl, h⟩
  | cons call calls ih =>
      obtain ⟨first, rest⟩ := List.forall_mem_cons.1 step
      obtain ⟨answer, kept⟩ := first v logs h
      obtain ⟨answers, kept⟩ := ih rest kept
      rw [List.mapM_cons, List.mapM_cons]
      exact ⟨congrArg₂ List.cons answer answers, kept⟩

open LogDirectory

variable {d : LogDirectory} {dir : Place} {accepted : UnitId → Prop} {t t₀ : FileTree} {path : FilePath}
  {logs : UnitId → List Checkpoint} {calls : List LogCall}

theorem inDirectory_step (call : LogCall) (h : Keeps d dir accepted t logs)
    (ascending : ∀ id, Checkpoint.Ascending (logs id)) (named : ∀ id ∈ call.unit?, accepted id)
    (readable : ∀ c ∈ call.saved?, c.Readable) :
    ∃ t', call.inDirectory (d, t) = ((call.onLogs logs).1, d, t') ∧
      Keeps d dir accepted t' (call.onLogs logs).2 := by
  cases call with
  | save c =>
      have hid := named c.unitId rfl
      by_cases newer : Checkpoint.iterationOf (logs c.unitId).getLast? < c.iteration
      · obtain ⟨t', saved, kept⟩ := h.save ascending hid (readable c rfl) newer
        refine ⟨t', ?_, ?_⟩
        · simp only [inDirectory, onLogs, saved, if_pos newer]
        · simpa only [onLogs, if_pos newer] using kept
      · have refused := h.save_stale ascending hid newer
        refine ⟨t, ?_, ?_⟩
        · simp only [inDirectory, onLogs, refused, if_neg newer]
        · simpa only [onLogs, if_neg newer] using h
  | deleteAll id =>
      obtain ⟨t', deleted, kept⟩ := h.deleteAll (named id rfl)
      exact ⟨t', by simp only [inDirectory, onLogs, deleted], kept⟩
  | latest id =>
      have read := h.latest? ascending (named id rfl)
      exact ⟨t, by simp only [inDirectory, onLogs, read, Except.map], h⟩
  | history id =>
      have read := h.history ascending (named id rfl)
      exact ⟨t, by simp only [inDirectory, onLogs, read, Except.map], h⟩
  | latestIteration id =>
      have read := h.latest? ascending (named id rfl)
      exact ⟨t, by simp only [inDirectory, onLogs, read, Except.map], h⟩
  | reopen => exact ⟨t, by simp only [inDirectory, onLogs, h.reopen], h⟩

/-- The name of the unit's log is accepted by the file system, and there is no log yet. -/
def Accepted (d : LogDirectory) (t : FileTree) (id : UnitId) : Prop :=
  ∃ place, t.locate (d.filePath id) = .ok place ∧ t.node? place = none

theorem keeps_created (opened : create t₀ path = (.ok d, t)) :
    ∃ dir, Keeps d dir (Accepted d t) t fun _ => [] := by
  rw [create] at opened
  rcases made : t₀.makeDirectory path with ⟨_ | ⟨⟩, b⟩
  · rw [made] at opened
    cases opened
  · rw [made] at opened
    cases opened
    refine ⟨(t.follow [] (FilePath.steps path)).toOption.getD [],
      FileTree.makeDirectory_again made fun _ => id, ?_, ?_⟩
    all_goals
      rintro id ⟨place, located, absent⟩
      obtain ⟨dir, way, rfl⟩ := locate_filePath located
      rw [way]
    · exact located
    · exact ⟨[], .absent absent, by simp, fun _ _ => rfl⟩

/-- The directory agrees with the logs of the units. -/
def Agrees (d : LogDirectory) (dir : Place) (accepted : UnitId → Prop) (v : LogDirectory × FileTree)
    (logs : UnitId → List Checkpoint) : Prop :=
  v.1 = d ∧ Keeps d dir accepted v.2 logs ∧ ∀ id, Checkpoint.Ascending (logs id)

/-- Checkpoints in memory and logs in a directory, both empty at first, answer every sequence of calls
alike, as the logs of the units say: those are a list for each unit, whose iterations are positive
and grow. -/
theorem interchangeable (opened : create t₀ path = (.ok d, t))
    (accepts : ∀ call ∈ calls, ∀ id ∈ call.unit?, Accepted d t id)
    (readable : ∀ call ∈ calls, ∀ c ∈ call.saved?, c.Readable) :
    let logs := (calls.mapM onLogs).run fun _ => []
    let memory := (calls.mapM inMemory).run .empty
    let directory := (calls.mapM inDirectory).run (d, t)
    memory.1 = logs.1 ∧ directory.1 = logs.1 ∧ (∀ id, Checkpoint.Ascending (logs.2 id)) ∧
      memory.2.history = logs.2 ∧
      ∀ id, Accepted d t id → d.history directory.2.2 id = .ok (logs.2 id) := by
  obtain ⟨dir, created⟩ := keeps_created opened
  obtain ⟨answers, held⟩ := mapM_agree inMemory (fun m logs => m.history = logs) calls
    (fun call _ m logs h => inMemory_step call h) (rfl : CheckpointMemory.empty.history = fun _ => [])
  have step : ∀ call ∈ calls, ∀ v logs, Agrees d dir (Accepted d t) v logs →
      (call.inDirectory v).1 = (call.onLogs logs).1 ∧
        Agrees d dir (Accepted d t) (call.inDirectory v).2 (call.onLogs logs).2 := by
    rintro call hcall ⟨d', t'⟩ logs ⟨same, kept, ascending⟩
    obtain rfl : d' = d := same
    obtain ⟨t'', run, kept'⟩ := inDirectory_step call kept ascending (accepts call hcall)
      (readable call hcall)
    rw [run]
    exact ⟨rfl, rfl, kept', onLogs_ascending call ascending⟩
  have start : Agrees d dir (Accepted d t) (d, t) fun _ => [] :=
    ⟨rfl, created, fun _ => Checkpoint.ascending_nil⟩
  obtain ⟨answers', _, kept, ascending⟩ := mapM_agree inDirectory _ calls step start
  exact ⟨answers, answers', ascending, held, fun id hid => kept.history ascending hid⟩

def slashed : Checkpoint := { sample with unitId := "a/b" }

def underscored : Checkpoint := { sample with unitId := "a_b" }

/-- The two units share a file. -/
def sharedCalls : List LogCall :=
  [.save slashed, .save underscored, .save slashed, .reopen, .deleteAll "a/b", .latestIteration "a/b",
    .history "a_b"]

theorem interchangeable_shared : fileName "a/b" = fileName "a_b" ∧ ∃ t,
    create .empty "logs" = (.ok ⟨"logs"⟩, t) ∧
      ((sharedCalls.mapM inDirectory).run (⟨"logs"⟩, t)).1 =
        ((sharedCalls.mapM inMemory).run .empty).1 ∧
      ((sharedCalls.mapM inDirectory).run (⟨"logs"⟩, t)).1 =
        [.ok .done, .ok .done, .error (.staleIteration "a/b" 1 1), .ok .done, .ok .done,
          .ok (.latestIteration 0), .ok (.history [underscored])] := by
  have opened : create .empty "logs" = (.ok ⟨"logs"⟩, (create .empty "logs").2) :=
    Prod.ext (by decide +kernel) rfl
  have located : ∀ id ∈ ["a/b", "a_b"], Accepted ⟨"logs"⟩ (create .empty "logs").2 id := by
    intro id hid
    refine ⟨["logs", "a_b.jsonl"], ?_, Option.isNone_iff_eq_none.1 (by decide +kernel)⟩
    revert id
    decide +kernel
  have reads : ∀ c ∈ [slashed, underscored], c.Readable := by
    simp only [Checkpoint.Readable, Codec.encodeText, Json.compress, Codec.decodeText_eq_ok,
      Json.read_ofList]
    decide +kernel
  have named : ∀ call ∈ sharedCalls, (∀ id ∈ call.unit?, id ∈ ["a/b", "a_b"]) ∧
      ∀ c ∈ call.saved?, c ∈ [slashed, underscored] := by decide +kernel
  have answers : ((sharedCalls.mapM onLogs).run fun _ => []).1 =
      [.ok .done, .ok .done, .error (.staleIteration "a/b" 1 1), .ok .done, .ok .done,
        .ok (.latestIteration 0), .ok (.history [underscored])] := by decide +kernel
  obtain ⟨memory, directory, _⟩ := interchangeable opened
    (fun call hcall id hid => located id ((named call hcall).1 id hid))
    (fun call hcall c hc => reads c ((named call hcall).2 c hc))
  exact ⟨by decide +kernel, _, opened, directory.trans memory.symm, directory.trans answers⟩

end LogCall

end BuildAdmission
