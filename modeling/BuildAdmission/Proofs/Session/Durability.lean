import BuildAdmission.Proofs.Scheduler.Recovery
import BuildAdmission.Proofs.Session.Progress

namespace BuildAdmission

namespace Session

variable {σ : Type} [Storage σ] {good : σ → Prop} {back : Checkpoint → Option Checkpoint}
  {stored : σ → UnitId → List Checkpoint} {onFile : σ → List WorkUnit} {m n s t : Session σ}
  {e : Event} {es : List Event} {id : UnitId} {calls : List (Call σ)} {r : WorkUnit}
  {ck : Checkpoint}

open Storage

/-! ### Units that are complete on file -/

/-- The unit is complete, and whatever is on file about it says so. -/
structure Filed (onFile : σ → List WorkUnit) (m : Session σ) (id : UnitId) : Prop where
  done : m.scheduler.graph.IsDone id
  complete : ∀ r ∈ onFile m.storage, r.id = id → r.status = .complete

/-- The records on file change only to those of the units. -/
theorem Step.files (keeping : Keeping good back stored onFile) (h : Step m e n)
    (hm : good m.storage) :
    onFile n.storage = onFile m.storage ∨ onFile n.storage = m.scheduler.graph.records := by
  have touch := h.touch
  generalize n.storage = v at touch
  cases touch with
  | untouched => exact .inl rfl
  | read read => exact .inl (keeping.onFile_read read hm)
  | saved read saved =>
      have same := keeping.onFile_saved saved (keeping.read read hm).1
      exact .inl (same.trans (keeping.onFile_read read hm))
  | unsaved read saved =>
      have same := keeping.onFile_saved saved (keeping.read read hm).1
      exact .inl (same.trans (keeping.onFile_read read hm))
  | deleted => exact .inl ((keeping.elsewhere _ hm).2.2 _)
  | flushed =>
      cases written : (Storage.flush m.scheduler.graph.records m.storage).1 with
      | error refusal => exact .inl (keeping.unwritten _ _ refusal hm written)
      | ok => exact .inr (keeping.written _ _ hm written)

theorem Step.filed (keeping : Keeping good back stored onFile) (h : Step m e n)
    (kept : m.scheduler.Kept) (apart : m.scheduler.graph.Apart) (hm : good m.storage)
    (filed : m.Filed onFile id) : n.Filed onFile id := by
  refine ⟨h.done kept filed.done, ?_⟩
  rcases h.files keeping hm with same | flushed
  · rw [same]
    exact filed.complete
  · rw [flushed]
    exact fun r hr => filed.done.status_of_mem kept.keyed apart hr

theorem Trace.filed (keeping : Keeping good back stored onFile) (h : Trace m es n)
    (kept : m.scheduler.Kept) (built : m.scheduler.graph.Built) (hm : good m.storage)
    (filed : m.Filed onFile id) : n.Filed onFile id :=
  (h.invariant (P := fun m => m.scheduler.Kept ∧ m.scheduler.graph.Built ∧ good m.storage ∧
      m.Filed onFile id)
    (fun _ _ _ step ⟨kept, built, hm, filed⟩ => ⟨step.kept kept, (step.grows built).1,
      step.keeps_good keeping.toCareful hm, step.filed keeping kept built.apart hm filed⟩)
    ⟨kept, built, hm, filed⟩).2.2.2

/-- Once it is written down that a unit whose checkpoints were discarded is complete, it stays so. -/
theorem Run.filed (keeping : Keeping good back stored onFile) (opened : Opened s)
    (start : good s.storage) (clean : Checkpoint.Settled back (stored s.storage))
    (run : Run s calls t) (fits : ∀ c ∈ calls, c.Fits back stored) : ∀ c ∈ calls, c.Discards stored id →
      onFile c.after.storage = c.after.scheduler.graph.records → t.Filed onFile id := by
  induction run with
  | nil => simp
  | wait rest clock date ih =>
      intro c hc discards flushed
      have filed := ih fits c hc discards flushed
      exact ⟨filed.done, filed.complete⟩
  | @call calls t rest command ih =>
      obtain ⟨before, _⟩ := List.forall_mem_append.1 fits
      have hgood := rest.keeps_good keeping.toCareful start
      intro c hc discards flushed
      rcases List.mem_append.1 hc with hc | hc
      · obtain ⟨es, trace⟩ := call_trace t command
        exact trace.filed keeping (rest.kept opened) (rest.built opened) hgood
          (ih before c hc discards flushed)
      · obtain rfl := List.mem_singleton.1 hc
        have whole := rest.call command
        have last := rest.call_deposits keeping.toLogging opened start clean before command
        obtain ⟨_, keeps, _⟩ | ⟨_, done, _⟩ := last.at id
        · exact absurd discards keeps
        · refine ⟨done, ?_⟩
          rw [flushed]
          exact fun r hr => done.status_of_mem (whole.kept opened).keyed (whole.built opened).apart hr

/-! ### Restarts -/

/-- A session that was restored from what the other one has left on file and in its checkpoints,
whatever calls fail in it. -/
def Restarts (good : σ → Prop) (stored : σ → UnitId → List Checkpoint)
    (onFile : σ → List WorkUnit) (t m : Session σ) : Prop :=
  ∃ limits budget found, good found ∧ stored found = stored t.storage ∧
    onFile found = onFile t.storage ∧
    (Scheduler.restore limits budget).run found = (.ok m.scheduler, m.storage)

/-- No call fails any more after the restart. -/
theorem restarts_repaired (good : σ → Prop) (stored : σ → UnitId → List Checkpoint)
    (onFile : σ → List WorkUnit) {limits : Limits} {budget : Budget} {t m : Session (Faulty σ)}
    (ht : good t.storage.inner)
    (made : (Scheduler.restore limits budget).run (⟨t.storage.inner, []⟩ : Faulty σ) =
      (.ok m.scheduler, m.storage)) :
    Restarts (fun v => good v.inner) (fun v => stored v.inner) (fun v => onFile v.inner) t m :=
  ⟨limits, budget, ⟨t.storage.inner, []⟩, ht, rfl, rfl, made⟩

/-- The unit is back: a run that was cut off is checkpointed, and the next one goes on from the
checkpoint. -/
structure Resumes (m : Session σ) (r : WorkUnit) (ck : Checkpoint) : Prop where
  status : ∃ u, m.scheduler.graph.unit? r.id = some u ∧
    u.status = if r.status.isActive then .checkpointed else r.status
  resume : ∀ task priority a,
    (m.call (.requestLaunch r.id task priority)).answer = .ok (.launched (.admitted a)) →
      a.resume = some ck.resume

theorem admitted_resume (legible : Legible good stored) (hm : good m.storage)
    {task : LaunchTask} {priority : Int32} {a : Admission}
    (answered : (m.call (.requestLaunch id task priority)).answer =
      .ok (.launched (.admitted a))) :
    a.resume = (stored m.storage id).getLast?.map (·.resume) := by
  obtain ⟨answer, es, launched, same, trace⟩ := perform_requestLaunch id task priority m
  rw [answered] at same
  cases launched with
  | admitted asked =>
      cases same
      cases trace with
      | cons step rest =>
          cases step
          cases rest with
          | cons step rest =>
              cases step with
              | grant live idle gate room read =>
                  rw [legible.newest _ id _ hm (congrArg Prod.fst read)]
  | _ => cases same

theorem Restarts.resumes (recording : Recording good stored onFile)
    (h : Restarts good stored onFile t m) (hr : r ∈ onFile t.storage) (unarchived : r.archived = false)
    (last : (stored t.storage r.id).getLast? = some ck) (positive : 0 < ck.iteration) :
    stored m.storage = stored t.storage ∧ m.Resumes r ck := by
  obtain ⟨limits, budget, found, hgood, same, files, made⟩ := h
  obtain ⟨same', hgood', recovered⟩ := Scheduler.restore_recovers recording made hgood
  rw [same, files] at recovered
  obtain ⟨u, live, status⟩ := recovered r hr unarchived
  refine ⟨same'.trans same, ⟨u, live, ?_⟩, ?_⟩
  · rw [status, Status.recovered, last, Checkpoint.iterationOf, Option.elim_some, if_pos positive]
  · intro task priority a answered
    rw [admitted_resume recording.toLegible hgood' answered, same', same, last]
    rfl

/-- As long as a unit is not complete on file, its log holds all that was saved, as it is read back,
unless a call has discarded it without being able to write down that the unit is complete. A restart
then finds the unit with its progress. -/
theorem Run.progress_kept (keeping : Keeping good back stored onFile) (opened : Opened s)
    (start : good s.storage) (clean : Checkpoint.Settled back (stored s.storage))
    (run : Run s calls t) (fits : ∀ c ∈ calls, c.Fits back stored) (hr : r ∈ onFile t.storage)
    (unfinished : r.status ≠ .complete) :
    (stored t.storage r.id =
        stored s.storage r.id ++ (saved stored calls r.id).filterMap back ↔
      ∀ c ∈ calls, ¬ c.LosesProgress stored onFile r.id) ∧
    ((∀ c ∈ calls, ¬ c.LosesProgress stored onFile r.id) → r.archived = false →
      (∀ ck ∈ stored s.storage r.id, 0 < ck.iteration) →
      ∀ ck, (stored s.storage r.id ++ (saved stored calls r.id).filterMap back).getLast? =
          some ck →
        ∀ m, Restarts good stored onFile t m →
          stored m.storage = stored t.storage ∧ m.Resumes r ck) := by
  have ledger := run.ledger keeping.toLogging opened start clean fits r.id
  have lost : ∀ c ∈ calls, c.Discards stored r.id → c.LosesProgress stored onFile r.id := by
    intro c hc discards
    refine ⟨discards, fun flushed => unfinished ?_⟩
    exact (run.filed keeping opened start clean fits c hc discards flushed).complete r hr rfl
  have kept : stored t.storage r.id =
        stored s.storage r.id ++ (saved stored calls r.id).filterMap back ↔
      ∀ c ∈ calls, ¬ c.LosesProgress stored onFile r.id := by
    constructor
    · intro held c hc loses
      obtain ⟨_, keeps⟩ | ⟨gone, _, some, _⟩ := ledger
      · exact keeps c hc loses.1
      · exact some (held.symm.trans gone)
    · intro keeps
      obtain ⟨held, _⟩ | ⟨_, _, _, c, hc, discards⟩ := ledger
      · exact held
      · exact absurd (lost c hc discards) (keeps c hc)
  refine ⟨kept, ?_⟩
  intro keeps unarchived earlier ck last m restarts
  refine restarts.resumes keeping.toRecording hr unarchived (by rw [kept.2 keeps, last]) ?_
  rcases List.mem_append.1 (List.mem_of_getLast? last) with before | since
  · exact earlier ck before
  · obtain ⟨written, hwritten, read⟩ := List.mem_filterMap.1 since
    obtain ⟨c, hc, hck⟩ := List.mem_flatMap.1 hwritten
    have positive := (run.deposits keeping.toLogging opened start clean fits c hc).positive hck
    obtain ⟨_, retimed⟩ := keeping.retimed
    rwa [retimed written ck read]

/-- A session that took over a unit which was running when the last one ended. From then on no
record can be written. -/
def takenOver : Session (Faulty Vault) where
  scheduler := { fresh.scheduler with
    graph := ⟨IdMap.empty.insert "lib" ⟨"lib", .core, .pending, 0, 1000, ∅, 0, false⟩, ∅⟩ }
  storage :=
    ⟨.memory .empty (.ofUnits [⟨"lib", .core, .running, 0, 1000, ∅, 0, false⟩]), [.flush]⟩
  trail := []
  clock := 0
  date := .epoch

theorem opened_takenOver : Opened takenOver := by
  have valid : Budget.new .standard Budget.standardMargin Budget.standardHardLimit =
      .ok fresh.scheduler.budget := by decide
  have made : (Scheduler.restore .standard fresh.scheduler.budget).run takenOver.storage =
      (.ok takenOver.scheduler, takenOver.storage) := by rfl
  exact .restored valid made

def halfDone : CheckpointData := ⟨["parse"], ["link"], [], .ofSecs 60, ⟨3, 0⟩⟩

theorem progress_kept_suspended :
    let c := takenOver.call (.requestLaunch "lib" ⟨"build", 1000⟩ 0)
    let c' := c.after.call (.suspended "lib" halfDone)
    c'.after.storage.inner.history "lib" = [⟨"lib", 1, halfDone, .epoch⟩] ∧
      ∃ m, Restarts (fun v => ∃ checkpoints registry, v.inner = .memory checkpoints registry)
          (·.inner.history) (·.inner.onFile) c'.after m ∧
        m.Resumes ⟨"lib", .core, .running, 0, 1000, ∅, 0, false⟩ ⟨"lib", 1, halfDone, .epoch⟩ := by
  intro c c'
  have run := ((Run.nil (s := takenOver)).call (.requestLaunch "lib" ⟨"build", 1000⟩ 0)).call
    (.suspended "lib" halfDone)
  have keeps : ∀ d ∈ [] ++ [c] ++ [c'],
      ¬ d.LosesProgress (·.inner.history) (·.inner.onFile) "lib" := by
    simp [c, c', Call.LosesProgress, Call.Discards, Call.Completes, call, Command.completion?]
  obtain ⟨kept, resumes⟩ := run.progress_kept (r := ⟨"lib", .core, .running, 0, 1000, ∅, 0, false⟩)
    (Faulty.keeping Vault.keeping_memory) opened_takenOver ⟨_, _, rfl⟩ (Checkpoint.settled_some _)
    (fun d _ => d.fits_some _) (by decide +kernel) (by decide)
  refine ⟨(kept.2 keeps).trans (by decide +kernel), ?_⟩
  obtain ⟨scheduler, storage, made⟩ : ∃ scheduler storage,
      (Scheduler.restore .standard fresh.scheduler.budget).run
        (⟨c'.after.storage.inner, []⟩ : Faulty Vault) = (.ok scheduler, storage) := ⟨_, _, rfl⟩
  have memory := run.keeps_good (Faulty.careful Vault.careful_memory) ⟨_, _, rfl⟩
  have restarts := restarts_repaired
    (fun v : Vault => ∃ checkpoints registry, v = .memory checkpoints registry) Vault.history
    Vault.onFile (m := ⟨scheduler, storage, [], 0, .epoch⟩) memory made
  exact ⟨_, restarts, (resumes keeps rfl (by decide +kernel) _ (by decide +kernel) _ restarts).2⟩

/-- A unit is completed while no record can be written: it is still running on file, its checkpoint
is gone, and after a restart it begins anew. -/
theorem progress_lost_completed :
    let c := takenOver.call (.requestLaunch "lib" ⟨"build", 1000⟩ 0)
    let c' := c.after.call (.suspended "lib" halfDone)
    let d := c'.after.call (.requestLaunch "lib" ⟨"build", 1000⟩ 0)
    let d' := d.after.call (.completed "lib")
    ⟨"lib", .core, .running, 0, 1000, ∅, 0, false⟩ ∈ d'.after.storage.inner.onFile ∧
      saved (fun v : Faulty Vault => v.inner.history) [c, c', d, d'] "lib" =
        [⟨"lib", 1, halfDone, .epoch⟩] ∧
      d'.after.storage.inner.history "lib" = [] ∧
      ∃ m, Restarts (fun v => ∃ checkpoints registry, v.inner = .memory checkpoints registry)
          (·.inner.history) (·.inner.onFile) d'.after m ∧
        (m.scheduler.graph.unit? "lib").map (·.status) = some .pending := by
  intro c c' d d'
  refine ⟨by decide +kernel, by decide +kernel, by decide +kernel, ?_⟩
  have back : ((Scheduler.restore .standard fresh.scheduler.budget).run
      (⟨d'.after.storage.inner, []⟩ : Faulty Vault)).1.map
        (fun m => (m.graph.unit? "lib").map (·.status)) = .ok (some .pending) := by decide +kernel
  have run : Run takenOver _ d'.after := (((Run.nil.call _).call _).call _).call _
  have memory := run.keeps_good (Faulty.careful Vault.careful_memory) ⟨_, _, rfl⟩
  rcases made : (Scheduler.restore .standard fresh.scheduler.budget).run
    (⟨d'.after.storage.inner, []⟩ : Faulty Vault) with ⟨result, storage⟩
  rw [made] at back
  obtain ⟨scheduler, rfl, status⟩ := Except.map_eq_ok_iff.1 back
  exact ⟨⟨scheduler, storage, [], 0, .epoch⟩, restarts_repaired
    (fun v : Vault => ∃ checkpoints registry, v = .memory checkpoints registry) Vault.history
    Vault.onFile memory made, status⟩

end Session

end BuildAdmission
