import BuildAdmission.Proofs.Session.Account

namespace BuildAdmission.Op

open Session

variable {σ : Type} [Storage σ] {id : UnitId}

/-- The unit runs in a slot. -/
def HoldsSlot (s : Scheduler) (id : UnitId) : Prop :=
  ∃ u running, s.graph.unit? id = some u ∧ u.status = .running ∧ s.running.find? id = some running

omit [Storage σ] in
/-- A unit that is asked to run on either holds a slot, or nothing happens. -/
theorem run_expectRunning (id : UnitId) (target : Status) (s : Session σ) :
    (∃ u running, s.scheduler.graph.unit? id = some u ∧ u.status = .running ∧
      s.scheduler.running.find? id = some running ∧
      (expectRunning id target).run s = (.ok running, s)) ∨
    ∃ refusal, (expectRunning id target).run s = (.error refusal, s) ∧
      ¬ HoldsSlot s.scheduler id := by
  simp only [expectRunning, run_bind, run_scheduler, run_liftM, HoldsSlot]
  cases hlive : s.scheduler.graph.unit? id with
  | none => exact .inr ⟨_, by simp only [Graph.get_eq_error hlive]; rfl, by simp⟩
  | some u =>
      simp only [Graph.get_eq_ok_iff.2 hlive]
      cases hslot : s.scheduler.running.find? id with
      | none => exact .inr ⟨_, rfl, by simp⟩
      | some running =>
          by_cases hstatus : u.status = .running
          · exact .inl ⟨u, running, rfl, hstatus, rfl, by simp [hstatus]⟩
          · refine .inr ⟨_, by simp only [ne_eq, hstatus, not_false_eq_true, if_true]; rfl, ?_⟩
            simp [hstatus]

/-- A run has ended, which is the first event. Its slot is filled again and the records are
flushed. -/
structure Ended (s : Session σ) (first : Event)
    (ended : Except Refusal TransitionReport × Session σ) (es : List Event) : Prop where
  report : ∃ report, ended.1 = .ok report ∧ report.promoted = Event.admissions es
  trace : Trace s (first :: (es ++ [.flush])) ended.2
  promotions : ∀ e ∈ es, e.isPromotion = true

/-- Behind the first event come promotions and the flush. -/
theorem Ended.forall_rest {s : Session σ} {first : Event}
    {ended : Except Refusal TransitionReport × Session σ} {es : List Event} {P : Event → Prop}
    (h : Ended s first ended es) (promotion : ∀ e, e.isPromotion = true → P e) (flush : P .flush) :
    ∀ e ∈ es ++ [.flush], P e :=
  List.forall_mem_append.2 ⟨fun e he => promotion e (h.promotions e he),
    List.forall_mem_singleton.2 flush⟩

/-- A run of the unit ends with an event, after which the operation concludes. -/
inductive Concludes (s : Session σ) (id : UnitId) (first : Event) :
    Except Refusal TransitionReport × Session σ → Prop
  | intro {t status} (step : Step s first t) : Concludes s id first ((conclude id status).run t)

theorem Concludes.ended {s : Session σ} {first : Event}
    {ended : Except Refusal TransitionReport × Session σ} (h : Concludes s id first ended) :
    ∃ es, Ended s first ended es := by
  obtain @⟨t, status, step⟩ := h
  obtain ⟨es, r, hrun, trace, promotions⟩ := promote_trace t
  refine ⟨es, ?_⟩
  simp only [conclude, run_bind, hrun, run_persist, run_scheduler, run_pure]
  exact ⟨⟨_, rfl, rfl⟩, .cons step (trace.snoc .flush), promotions⟩

theorem Concludes.unitId {s t : Session σ} {first : Event} {report : TransitionReport}
    (h : Concludes s id first (.ok report, t)) : report.unitId = id := by
  generalize hended : (Except.ok report, t) = ended at h
  obtain @⟨m, status, step⟩ := h
  obtain ⟨es, r, hrun, _⟩ := promote_trace m
  simp only [conclude, run_bind, hrun, run_persist, run_scheduler, run_pure] at hended
  cases hended
  rfl

theorem Ended.account {s : Session σ} {first : Event}
    {ended : Except Refusal TransitionReport × Session σ} {es : List Event}
    (h : Ended s first ended es) (silent : first.admission? = none)
    (internal : first.isRequest = false) :
    Account (·.promoted) s ended (first :: (es ++ [.flush])) := by
  refine ⟨h.trace, ?_, Event.settled_snoc_flush (first :: es), ?_⟩
  · intro report hreport
    obtain ⟨given, hgiven, promoted⟩ := h.report
    cases hgiven.symm.trans hreport
    simp [promoted, silent]
  · have rest := h.forall_rest (fun _ => Event.isRequest_of_isPromotion) rfl
    exact List.forall_mem_cons.2 ⟨internal, rest⟩

theorem completed_concludes (id : UnitId) (s : Session σ) :
    Concludes s id (.complete id) ((completed id).run s) ∨
      ∃ refusal, (completed id).run s = (.error refusal, s) ∧ ¬ HoldsSlot s.scheduler id := by
  rw [completed]
  obtain ⟨u, running, live, status, slot, hrun⟩ | ⟨refusal, hrun, idle⟩ :=
    run_expectRunning id .complete s
  · rw [run_bind_ok hrun, run_bind_ok (run_change ..), run_bind_ok (run_attempt ..),
      run_bind_ok (run_record ..)]
    exact .inl ⟨.complete live status slot⟩
  · exact .inr ⟨refusal, run_bind_error hrun, idle⟩

theorem failed_concludes (id : UnitId) (reason : String) (s : Session σ) :
    (∃ first, (first = .retry id ∨ first = .fail id) ∧
      Concludes s id first ((failed id reason).run s)) ∨
      ∃ refusal, (failed id reason).run s = (.error refusal, s) ∧ ¬ HoldsSlot s.scheduler id := by
  rw [failed]
  obtain ⟨u, running, live, status, slot, hrun⟩ | ⟨refusal, hrun, idle⟩ := run_expectRunning id .failed s
  · refine .inl ?_
    rw [run_bind_ok hrun, run_bind_ok (run_scheduler s), run_bind, run_liftM,
      Graph.get_eq_ok_iff.2 live]
    by_cases tries : u.retryCount < s.scheduler.limits.maxRetries
    · simp only [tries, if_true]
      rw [run_bind_ok (run_change ..), run_bind_ok (run_record ..)]
      exact ⟨_, .inl rfl, ⟨.retry live status slot tries⟩⟩
    · simp only [tries, if_false]
      rw [run_bind_ok (run_change ..), run_bind_ok (run_record ..)]
      exact ⟨_, .inr rfl, ⟨.fail live status slot tries⟩⟩
  · exact .inr ⟨refusal, run_bind_error hrun, idle⟩

theorem suspended_concludes (id : UnitId) (data : CheckpointData) (s : Session σ) :
    Concludes s id (.suspend id data) ((suspended id data).run s) ∨
      (∃ refusal e t, Step s e t ∧ (e = .unread id ∨ e = .unsaved id) ∧
        (suspended id data).run s = (.error refusal, t)) ∨
      ∃ refusal, (suspended id data).run s = (.error refusal, s) ∧ ¬ HoldsSlot s.scheduler id := by
  rw [suspended]
  obtain ⟨u, running, live, status, slot, hrun⟩ | ⟨refusal, hrun, idle⟩ :=
    run_expectRunning id .checkpointed s
  · rw [run_bind_ok hrun, run_bind, run_ofStorage]
    rcases read : Storage.latest? id s.storage with ⟨refusal | latest, storage⟩
    · exact .inr (.inl ⟨_, _, _, .unread read, .inl rfl, rfl⟩)
    · simp only
      rw [run_bind_ok (run_get _), withStorage_date]
      have hsave := run_ofStorage (Storage.save ⟨id, Checkpoint.iterationOf latest + 1, data, s.date⟩)
        (s.withStorage storage)
      rcases save : Storage.save ⟨id, Checkpoint.iterationOf latest + 1, data, s.date⟩ storage with
        ⟨refusal | _, storage'⟩
      · rw [withStorage_storage, save] at hsave
        rw [run_bind_error hsave]
        exact .inr (.inl ⟨_, _, _, .unsaved read save, .inr rfl, rfl⟩)
      · rw [withStorage_storage, save] at hsave
        rw [run_bind_ok hsave]
        exact .inl ⟨.suspend live status slot read save⟩
  · exact .inr (.inr ⟨refusal, run_bind_error hrun, idle⟩)

theorem run_completed (id : UnitId) (s : Session σ) :
    (∃ es, Ended s (.complete id) ((completed id).run s) es) ∨
      ∃ refusal, (completed id).run s = (.error refusal, s) ∧ ¬ HoldsSlot s.scheduler id :=
  (completed_concludes id s).imp_left Concludes.ended

theorem run_failed (id : UnitId) (reason : String) (s : Session σ) :
    (∃ first es, (first = .retry id ∨ first = .fail id) ∧
      Ended s first ((failed id reason).run s) es) ∨
      ∃ refusal, (failed id reason).run s = (.error refusal, s) ∧ ¬ HoldsSlot s.scheduler id := by
  refine (failed_concludes id reason s).imp_left ?_
  rintro ⟨first, hfirst, concludes⟩
  obtain ⟨es, ended⟩ := concludes.ended
  exact ⟨first, es, hfirst, ended⟩

theorem run_suspended (id : UnitId) (data : CheckpointData) (s : Session σ) :
    (∃ es, Ended s (.suspend id data) ((suspended id data).run s) es) ∨
      (∃ refusal e t, Step s e t ∧ (e = .unread id ∨ e = .unsaved id) ∧
        (suspended id data).run s = (.error refusal, t)) ∨
      ∃ refusal, (suspended id data).run s = (.error refusal, s) ∧ ¬ HoldsSlot s.scheduler id :=
  (suspended_concludes id data s).imp_left Concludes.ended

theorem completed_account (id : UnitId) (s : Session σ) :
    ∃ es, Account (·.promoted) s ((completed id).run s) es := by
  obtain ⟨es, ended⟩ | ⟨refusal, hrun, _⟩ := run_completed id s
  · exact ⟨_, ended.account rfl rfl⟩
  · rw [hrun]
    exact ⟨[], .refused⟩

theorem failed_account (id : UnitId) (reason : String) (s : Session σ) :
    ∃ es, Account (·.promoted) s ((failed id reason).run s) es := by
  obtain ⟨first, es, rfl | rfl, ended⟩ | ⟨refusal, hrun, _⟩ := run_failed id reason s
  · exact ⟨_, ended.account rfl rfl⟩
  · exact ⟨_, ended.account rfl rfl⟩
  · rw [hrun]
    exact ⟨[], .refused⟩

theorem suspended_account (id : UnitId) (data : CheckpointData) (s : Session σ) :
    ∃ es, Account (·.promoted) s ((suspended id data).run s) es := by
  obtain ⟨es, ended⟩ | ⟨refusal, e, t, step, rfl | rfl, hrun⟩ | ⟨refusal, hrun, _⟩ :=
    run_suspended id data s
  · exact ⟨_, ended.account rfl rfl⟩
  · rw [hrun]
    exact ⟨_, .quiet step rfl rfl (by simp)⟩
  · rw [hrun]
    exact ⟨_, .quiet step rfl rfl (by simp)⟩
  · rw [hrun]
    exact ⟨[], .refused⟩

theorem recordProgress_atomic (id : UnitId) (s : Session σ) :
    Atomic s [.progress id] ((recordProgress id).run s) := by
  rw [recordProgress]
  obtain ⟨u, running, live, status, slot, hrun⟩ | ⟨refusal, hrun, _⟩ := run_expectRunning id .running s
  · rw [run_bind_ok hrun, run_bind_ok (run_get s)]
    exact .done (Step.progress live status slot).trace
  · rw [run_bind_error hrun]
    exact .refused

/-- The units that are idle expire one after the other. The first refusal ends it. -/
theorem expireEach_account (timeout : Duration) (ids : List UnitId) (s : Session σ)
    (h : s.scheduler.limits.idleTimeout = timeout) :
    ∃ es, Account (·.flatMap (·.promoted)) s ((ids.mapM fun id => do
      record id .expire (some ("no progress for " ++ timeout.describe))
      failed id "idle timeout" : Op σ (List TransitionReport)).run s) es := by
  induction ids generalizing s with
  | nil => exact ⟨[], .nil, by simp, trivial, by simp⟩
  | cons id ids ih =>
      subst h
      have hexpire : Step s (.expire id) _ := .expire
      obtain ⟨es, hfail⟩ := failed_account id "idle timeout" (s.log id .expire
        (some ("no progress for " ++ s.scheduler.limits.idleTimeout.describe)))
      rw [List.mapM_cons, bind_assoc, run_bind_ok (run_record ..), run_bind]
      rcases hrun : (failed id "idle timeout").run (s.log id .expire
        (some ("no progress for " ++ s.scheduler.limits.idleTimeout.describe))) with ⟨refusal | report, t⟩
      · rw [hrun] at hfail
        exact ⟨.expire id :: es, .cons hexpire hfail.trace, by simp,
          ⟨.inl rfl, hfail.settled⟩, by simpa [Event.isRequest] using hfail.internal⟩
      · rw [hrun] at hfail
        obtain ⟨es', hrest⟩ := ih t (congrArg Limits.idleTimeout hfail.trace.limits)
        simp only [bind_pure_comp, run_map]
        refine ⟨.expire id :: (es ++ es'), .cons hexpire (hfail.trace.append hrest.trace), ?_,
          ⟨.inl rfl, hfail.settled.append hrest.settled⟩, ?_⟩
        · intro reports hreports
          obtain ⟨later, hlater, rfl⟩ := Except.map_eq_ok_iff.1 hreports
          rw [List.flatMap_cons, hfail.given report rfl, hrest.given later hlater]
          simp [Event.admission?]
        · intro e he
          rcases List.mem_cons.1 he with rfl | he
          · rfl
          · exact (List.mem_append.1 he).elim (hfail.internal e) (hrest.internal e)

theorem expireIdle_account (now : Nat) (s : Session σ) :
    ∃ es, Account (·.flatMap (·.promoted)) s ((expireIdle now).run s) es := by
  rw [expireIdle, run_bind_ok (run_scheduler s)]
  exact expireEach_account _ _ s rfl

end BuildAdmission.Op
