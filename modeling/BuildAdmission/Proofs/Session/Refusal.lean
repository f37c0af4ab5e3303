import BuildAdmission.Proofs.Session.Mirror

namespace BuildAdmission

namespace Event

/-- The unit whose run the event ends. -/
def ends? : Event → Option UnitId
  | suspend id _ | complete id | retry id | fail id => some id
  | _ => none

/-- The unit whose run the event ends or renews. -/
def run? : Event → Option UnitId
  | progress id => some id
  | e => e.ends?

/-- Whether the event may be one of an operation that is refused. -/
def isIdle : Event → Bool
  | reinstate _ | unread _ | unsaved _ | flush => true
  | _ => false

end Event

/-- Units that were silent for too long fail one after the other. After each the free slots are
filled. -/
inductive Expiries : List UnitId → List TransitionReport → List Event → Prop
  | nil : Expiries [] [] []
  | cons {id ids report reports first promotions es} (fails : first = .retry id ∨ first = .fail id)
      (filled : ∀ e ∈ promotions, e.isPromotion = true) (rest : Expiries ids reports es) :
      Expiries (id :: ids) (report :: reports) (.expire id :: first :: (promotions ++ .flush :: es))

theorem Expiries.forall_events {P : Event → Prop} {ids : List UnitId}
    {reports : List TransitionReport} {es : List Event} (h : Expiries ids reports es)
    (expire : ∀ id, P (.expire id)) (fails : ∀ id, P (.retry id) ∧ P (.fail id))
    (promotion : ∀ e, e.isPromotion = true → P e) (flush : P .flush) : ∀ e ∈ es, P e := by
  induction h with
  | nil => simp
  | @cons id _ _ _ first _ _ failed filled _ ih =>
      have hfirst : P first := by
        rcases failed with rfl | rfl
        · exact (fails id).1
        · exact (fails id).2
      simp only [List.forall_mem_cons, List.forall_mem_append]
      exact ⟨expire id, hfirst, fun e he => promotion e (filled e he), flush, ih⟩

namespace Op

open Session

variable {σ α β : Type} {x : Op σ α} {f : α → Op σ β} {id : UnitId}

/-- An operation that is never refused. -/
def Sure (x : Op σ α) : Prop := ∀ s refusal t, x.run s ≠ (.error refusal, t)

/-- An operation that is refused before it has done anything. -/
def Checked (x : Op σ α) : Prop := ∀ s refusal t, x.run s = (.error refusal, t) → t = s

theorem Sure.of_run {a : Session σ → α} {g : Session σ → Session σ}
    (h : ∀ s, x.run s = (.ok (a s), g s)) : Sure x := by
  intro s refusal t hrun
  cases (h s).symm.trans hrun

theorem Sure.bind (hx : Sure x) (hf : ∀ a, Sure (f a)) : Sure (x >>= f) := by
  intro s refusal t hrun
  rw [run_bind] at hrun
  rcases hx' : x.run s with ⟨refusal' | a, r⟩
  · exact hx s refusal' r hx'
  · rw [hx'] at hrun
    exact hf a r refusal t hrun

theorem Sure.checked (hx : Sure x) : Checked x := fun s refusal t h => absurd h (hx s refusal t)

/-- Once the checks are passed nothing may be refused any more. -/
theorem Checked.bind (hx : Checked x) (hf : ∀ a, Sure (f a)) : Checked (x >>= f) := by
  intro s refusal t hrun
  rw [run_bind] at hrun
  rcases hx' : x.run s with ⟨refusal' | a, r⟩
  · rw [hx'] at hrun
    cases hrun
    exact hx s _ _ hx'
  · rw [hx'] at hrun
    exact absurd hrun (hf a r refusal t)

theorem Checked.after (hx : ∀ s, (x.run s).2 = s) (hf : ∀ a, Checked (f a)) :
    Checked (x >>= f) := by
  intro s refusal t hrun
  rw [run_bind] at hrun
  have still := hx s
  rcases hx' : x.run s with ⟨refusal' | a, r⟩
  · rw [hx'] at hrun still
    cases hrun
    exact still
  · rw [hx'] at hrun still
    rw [← (show r = s from still)]
    exact hf a r refusal t hrun

theorem checked_edit (f : Graph → Except Refusal (α × Graph)) : Checked (edit f : Op σ α) := by
  intro s refusal t hrun
  rw [run_edit] at hrun
  cases hf : f s.scheduler.graph with
  | error refusal' =>
      rw [hf] at hrun
      cases hrun
      rfl
  | ok made =>
      rw [hf] at hrun
      cases hrun

theorem checked_throw (refusal : Refusal) (f : α → Op σ β) : Checked (throw refusal >>= f) := by
  intro s refusal' t hrun
  cases hrun
  rfl

theorem sure_pure (a : α) : Sure (pure a : Op σ α) := .of_run fun s => run_pure a s

theorem sure_change (f : Scheduler → Scheduler) : Sure (change f : Op σ Unit) :=
  .of_run (run_change f)

theorem sure_record (id : UnitId) (action : AuditAction) (detail : Option String) :
    Sure (record id action detail : Op σ Unit) := .of_run (run_record id action detail)

variable [Storage σ]

theorem sure_persist : Sure (persist : Op σ Unit) := .of_run run_persist

theorem checked_addUnit (u : WorkUnit) : Checked (addUnit u : Op σ Unit) := by
  unfold addUnit
  split
  · exact checked_throw _ _
  · exact (checked_edit _).bind fun _ => (sure_record _ _ _).bind fun _ => sure_persist

theorem checked_addEdge (source target : UnitId) : Checked (addEdge source target : Op σ Unit) :=
  (checked_edit _).bind fun _ => sure_persist

theorem checked_updateSize (id : UnitId) (size : UInt64) :
    Checked (updateSize id size : Op σ Tier) :=
  (checked_edit _).bind fun _ => sure_persist.bind fun _ => .of_run fun _ => rfl

omit [Storage σ] in
theorem checked_setThresholds (thresholds : Thresholds) :
    Checked (setThresholds thresholds : Op σ Unit) := by
  refine .after (fun _ => rfl) fun s => ?_
  cases s.budget.withThresholds thresholds with
  | error fault => exact checked_throw _ pure
  | ok budget => exact (sure_change _).checked

theorem checked_resetFailed (id : UnitId) : Checked (resetFailed id : Op σ Unit) := by
  refine .after (fun _ => rfl) fun s => .after (fun _ => rfl) fun u => ?_
  split
  · exact checked_throw _ _
  · exact Sure.checked ((sure_change _).bind fun _ =>
      (sure_record _ _ _).bind fun _ => sure_persist)

omit [Storage σ] in
theorem checked_recordProgress (id : UnitId) : Checked (recordProgress id : Op σ Unit) := by
  intro s refusal t hrun
  rw [recordProgress] at hrun
  obtain ⟨u, running, _, _, _, hslot⟩ | ⟨refusal', hslot, _⟩ := run_expectRunning id .running s
  · rw [run_bind_ok hslot] at hrun
    cases hrun
  · rw [run_bind_error hslot] at hrun
    cases hrun
    rfl

end Op

namespace Session

variable {σ : Type} [Storage σ] {m n s t : Session σ} {e : Event} {es : List Event} {id : UnitId}
  {c : Command} {refusal : Refusal} {r : Running}

/-! ### Silent units -/

/-- As long as nothing ends or renews a run its slot stays as it is. -/
theorem Step.slot (h : Step m e n) (kept : m.scheduler.Kept) (stays : e.run? ≠ some id)
    (slot : m.scheduler.running.find? id = some r) : n.scheduler.running.find? id = some r := by
  obtain ⟨u, live, runs⟩ := kept.running_iff.1 ⟨r, slot⟩
  have inserted {k : UnitId} {v : WorkUnit} (r' : Running)
      (other : m.scheduler.graph.unit? k = some v) (rests : v.status ≠ .running) :
      (m.scheduler.running.insert k r').find? id = some r := by
    rw [IdMap.find?_insert, if_neg, slot]
    rintro rfl
    cases live.symm.trans other
    exact rests runs
  have erased {k : UnitId} (apart : some k ≠ some id) :
      (m.scheduler.running.erase k).find? id = some r := by
    rw [IdMap.find?_erase, if_neg fun same => apart (congrArg some same.symm), slot]
  cases h with
  | split live' idle free accepted =>
      rw [foldl_log_scheduler]
      exact slot
  | grant other idle gate room read =>
      exact inserted _ other (by rcases idle with idle | idle <;> simp [idle])
  | promote room pop other queued gate read => exact inserted _ other (by simp [queued])
  | suspend other status held read saved => exact erased stays
  | complete other status held => exact erased stays
  | retry other status held tries => exact erased stays
  | fail other status held tries => exact erased stays
  | progress other status held =>
      refine (IdMap.find?_modify ..).trans ?_
      rw [if_neg fun same => stays (congrArg some same.symm), slot]
  | _ => exact slot

theorem Trace.slot (h : Trace m es n) (kept : m.scheduler.Kept)
    (stays : ∀ e ∈ es, e.run? ≠ some id) (slot : m.scheduler.running.find? id = some r) :
    n.scheduler.running.find? id = some r := by
  induction h with
  | nil => exact slot
  | cons step rest ih =>
      obtain ⟨first, later⟩ := List.forall_mem_cons.1 stays
      exact ih (step.kept kept) later (step.slot kept first slot)

theorem run?_of_isPromotion (h : e.isPromotion = true) : e.run? = none := by
  cases e <;> first | rfl | cases h

/-- A unit that holds a slot can be failed, and the other units keep their slots. -/
theorem failed_sure (kept : s.scheduler.Kept) (slot : ∃ r, s.scheduler.running.find? id = some r)
    (reason : String) : ∃ report n first es, (Op.failed id reason).run s = (.ok report, n) ∧
      report.unitId = id ∧ (first = .retry id ∨ first = .fail id) ∧
      Op.Ended s first (.ok report, n) es ∧ report.promoted = Event.admissions es ∧
      ∀ k r, k ≠ id → s.scheduler.running.find? k = some r →
        n.scheduler.running.find? k = some r := by
  obtain ⟨first, hfirst, concludes⟩ | ⟨_, _, idle⟩ := Op.failed_concludes id reason s
  · obtain ⟨es, ended⟩ := concludes.ended
    obtain ⟨report, hreport, given⟩ := ended.report
    have hrun : (Op.failed id reason).run s = (.ok report, _) := Prod.ext hreport rfl
    have named : report.unitId = id := (hrun ▸ concludes).unitId
    refine ⟨report, _, first, es, hrun, named, hfirst, hrun ▸ ended, given, ?_⟩
    intro k r hne held
    refine ended.trace.slot kept (List.forall_mem_cons.2 ⟨?_, ended.forall_rest ?_ ?_⟩) held
    · rcases hfirst with rfl | rfl <;> exact fun ends => hne (Option.some.inj ends).symm
    · intro e he
      rw [run?_of_isPromotion he]
      exact nofun
    · exact nofun
  · obtain ⟨u, live, status⟩ := kept.running_iff.1 slot
    obtain ⟨r, hr⟩ := slot
    exact absurd ⟨u, r, live, status, hr⟩ idle

theorem expireEach_sure (timeout : Duration) (ids : List UnitId) (distinct : ids.Nodup)
    (kept : s.scheduler.Kept) (slots : ∀ id ∈ ids, ∃ r, s.scheduler.running.find? id = some r)
    (same : s.scheduler.limits.idleTimeout = timeout) :
    ∃ reports es n, reports.map (·.unitId) = ids ∧ Expiries ids reports es ∧ Trace s es n ∧
      reports.flatMap (·.promoted) = Event.admissions es ∧ (ids.mapM fun id => do
        Op.record id .expire (some ("no progress for " ++ timeout.describe))
        Op.failed id "idle timeout" : Op σ (List TransitionReport)).run s = (.ok reports, n) := by
  induction ids generalizing s with
  | nil => exact ⟨[], [], s, rfl, .nil, .nil, rfl, rfl⟩
  | cons id ids ih =>
      subst same
      obtain ⟨hid, distinct⟩ := List.nodup_cons.1 distinct
      have noted : Step s (.expire id) _ := .expire
      obtain ⟨report, n, first, es, hrun, named, hfirst, ended, given, others⟩ :=
        failed_sure (noted.kept kept) (slots id List.mem_cons_self) "idle timeout"
      obtain ⟨reports, es', n', names, expiries, later, given', hrest⟩ := ih distinct
        (ended.trace.kept (noted.kept kept))
        (fun k hk => (slots k (List.mem_cons_of_mem _ hk)).imp fun r =>
          others k r (ne_of_mem_of_not_mem hk hid))
        (congrArg Limits.idleTimeout ended.trace.limits)
      refine ⟨report :: reports, _, n', by rw [List.map_cons, named, names],
        .cons hfirst ended.promotions expiries, ?_, ?_, ?_⟩
      · have := ended.trace.append later
        rw [List.cons_append, List.append_assoc] at this
        exact .cons noted this
      · have silent : first.admission? = none := by rcases hfirst with rfl | rfl <;> rfl
        have noted : (Event.expire id).admission? = none := rfl
        simp [given, given', silent, noted]
      · rw [List.mapM_cons, bind_assoc, Op.run_bind_ok (Op.run_record ..), Op.run_bind_ok hrun,
          Op.run_bind_ok hrest]
        rfl

omit [Storage σ] in
theorem nodup_idleAt (s : Scheduler) (now : Nat) : (Op.idleAt s now).Nodup :=
  s.running.nodup_keys.sublist (List.filter_sublist.map _)

omit [Storage σ] in
theorem slot_of_idle {s : Scheduler} {now : Nat} (h : id ∈ Op.idleAt s now) :
    ∃ r, s.running.find? id = some r := by
  obtain ⟨e, he, rfl⟩ := List.mem_map.1 h
  exact ⟨e.2, IdMap.find?_eq_some_iff.2 (List.mem_of_mem_filter he)⟩

theorem expireIdle_sure (kept : s.scheduler.Kept) (now : Nat) :
    ∃ reports es n, reports.map (·.unitId) = Op.idleAt s.scheduler now ∧
      Expiries (Op.idleAt s.scheduler now) reports es ∧ Trace s es n ∧
      reports.flatMap (·.promoted) = Event.admissions es ∧
      (Op.expireIdle now).run s = (.ok reports, n) := by
  rw [Op.expireIdle, Op.run_bind_ok (Op.run_scheduler s)]
  exact expireEach_sure _ _ (nodup_idleAt _ now) kept (fun _ => slot_of_idle) rfl

end Session

/-! ### What an operation that is refused has done -/

namespace Op

open Session

variable {σ α β : Type} [Storage σ] {x : Op σ α} {s : Session σ}

/-- If the operation is refused then after nothing but idle events. -/
def Idles (s : Session σ) (x : Op σ α) : Prop :=
  ∀ refusal t, x.run s = (.error refusal, t) → ∃ es, Trace s es t ∧ ∀ e ∈ es, e.isIdle = true

theorem Idles.map (h : Idles s x) (f : α → β) : Idles s (f <$> x) := by
  intro refusal t hrun
  rw [run_map] at hrun
  rcases hx : x.run s with ⟨refusal' | a, r⟩
  · rw [hx] at hrun
    cases hrun
    exact h _ _ hx
  · rw [hx] at hrun
    cases hrun

theorem Checked.idles (h : Checked x) (s : Session σ) : Idles s x := by
  intro refusal t hrun
  rw [h s refusal t hrun]
  exact ⟨[], .nil, by simp⟩

theorem Ended.idles {first : Event} {es : List Event} {y : Op σ TransitionReport}
    (h : Ended s first (y.run s) es) : Idles s y := by
  intro refusal t hrun
  obtain ⟨report, hreport, _⟩ := h.report
  rw [hrun] at hreport
  cases hreport

theorem idles_of_run {e : Event} {t : Session σ} {result : Except Refusal α}
    (hrun : x.run s = (result, t)) (step : Step s e t) (idle : e.isIdle = true) : Idles s x := by
  intro refusal t' hrun'
  cases hrun.symm.trans hrun'
  exact ⟨[e], step.trace, by simpa using idle⟩

theorem idles_of_refused {refusal : Refusal} (hrun : x.run s = (.error refusal, s)) :
    Idles s x := by
  intro refusal' t hrun'
  cases hrun.symm.trans hrun'
  exact ⟨[], .nil, by simp⟩

theorem idles_completed (id : UnitId) (s : Session σ) : Idles s (completed id) := by
  obtain ⟨es, ended⟩ | ⟨refusal, hrun, _⟩ := run_completed id s
  · exact ended.idles
  · exact idles_of_refused hrun

theorem idles_failed (id : UnitId) (reason : String) (s : Session σ) :
    Idles s (failed id reason) := by
  obtain ⟨first, es, _, ended⟩ | ⟨refusal, hrun, _⟩ := run_failed id reason s
  · exact ended.idles
  · exact idles_of_refused hrun

theorem idles_suspended (id : UnitId) (data : CheckpointData) (s : Session σ) :
    Idles s (suspended id data) := by
  obtain ⟨es, ended⟩ | ⟨refusal, e, t, step, rfl | rfl, hrun⟩ | ⟨refusal, hrun, _⟩ :=
    run_suspended id data s
  · exact ended.idles
  · exact idles_of_run hrun step rfl
  · exact idles_of_run hrun step rfl
  · exact idles_of_refused hrun

theorem idles_retire (id : UnitId) (f : Graph → Except Refusal (α × Graph)) {g : α → Op σ β}
    (hg : ∀ a, Sure (g a)) (s : Session σ) : Idles s (retire id f >>= g) := by
  intro refusal t hrun
  obtain ⟨_, m, _, a, graph, _, _, _, _, _, _, hretire⟩ |
    ⟨es, refusal', t', trace, hes, hretire⟩ := run_retire id f s
  · rw [run_bind_ok hretire] at hrun
    exact absurd hrun (hg a _ refusal t)
  · rw [run_bind_error hretire] at hrun
    cases hrun
    refine ⟨es, trace, ?_⟩
    rcases hes with rfl | rfl <;> simp [Event.isIdle]

theorem idles_archive (id : UnitId) (s : Session σ) : Idles s (archive id) :=
  idles_retire id (·.archive id) (fun u => (sure_record _ _ _).bind fun _ =>
    sure_persist.bind fun _ => sure_pure u) s

theorem idles_split (plan : SplitPlan) (s : Session σ) : Idles s (split plan) :=
  idles_retire plan.whole (·.split plan) (fun ids => (sure_record _ _ _).bind fun _ =>
    (Sure.of_run (run_forIn_record ids _ _)).bind fun _ => sure_persist.bind fun _ => sure_pure ids) s

theorem idles_flush (s : Session σ) : Idles s flush := idles_of_run (run_flush s) .flush rfl

end Op

/-- Every operation but a request for a slot is refused before it has changed a unit. -/
theorem Session.perform_idles {σ : Type} [Storage σ] {s : Session σ} {c : Command}
    (kept : s.scheduler.Kept) (request : ¬ c.IsRequest) : Op.Idles s c.perform := by
  cases c with
  | requestLaunch id task priority => exact absurd trivial request
  | addUnit u => exact ((Op.checked_addUnit u).idles s).map _
  | addEdge source target => exact ((Op.checked_addEdge source target).idles s).map _
  | updateSize id size => exact ((Op.checked_updateSize id size).idles s).map _
  | setThresholds thresholds => exact ((Op.checked_setThresholds thresholds).idles s).map _
  | completed id => exact (Op.idles_completed id s).map _
  | failed id reason => exact (Op.idles_failed id reason s).map _
  | suspended id data => exact (Op.idles_suspended id data s).map _
  | applyOutcome id ticket outcome =>
      intro refusal t hrun
      rw [perform_applyOutcome] at hrun
      split at hrun
      · cases outcome with
        | completed => exact (Op.idles_completed id s).map _ refusal t hrun
        | failed reason => exact (Op.idles_failed id reason s).map _ refusal t hrun
        | suspended data => exact (Op.idles_suspended id data s).map _ refusal t hrun
      · cases hrun
  | recordProgress id => exact ((Op.checked_recordProgress id).idles s).map _
  | expireIdle now =>
      obtain ⟨reports, _, n, _, _, _, _, hrun⟩ := Session.expireIdle_sure kept now
      refine Op.Idles.map ?_ _
      intro refusal t hrun'
      cases hrun.symm.trans hrun'
  | resetFailed id => exact ((Op.checked_resetFailed id).idles s).map _
  | archive id => exact (Op.idles_archive id s).map _
  | split plan => exact (Op.idles_split plan s).map _
  | flush => exact (Op.idles_flush s).map _

end BuildAdmission
