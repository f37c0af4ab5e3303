import BuildAdmission.Proofs.Session.Conservation
import BuildAdmission.Proofs.Session.Tickets

namespace BuildAdmission.Session

variable {σ : Type} [Storage σ] {t : Session σ} {id : UnitId} {ticket : Nat}
  {names : List StorageCall}

omit [Storage σ] in
theorem holdsSlot_of_current (kept : t.scheduler.Kept)
    (current : t.scheduler.isCurrent id ticket = true) : Op.HoldsSlot t.scheduler id := by
  obtain ⟨r, slot, _⟩ := (Option.any_eq_true ..).1 current
  obtain ⟨u, live, status⟩ := kept.running_iff.1 ⟨r, slot⟩
  exact ⟨u, r, live, status, slot⟩

/-- As long as checkpoints can be read and saved, a unit that holds a slot can be suspended. -/
theorem suspended_ends (watched : [.loadLatest, .save] ⊆ names)
    (holds : Op.HoldsSlot t.scheduler id) (data : CheckpointData)
    (answers : ((Op.suspended id data).run (t.noted names)).2.storage.failed = false) :
    ∃ report, ((Op.suspended id data).run t).1 = .ok report := by
  have same : ((Op.suspended id data).run t).1 = ((Op.suspended id data).run (t.noted names)).1 :=
    congrArg Prod.fst (Op.shows_suspended Noted.view_inner id data (t.noted names))
  rw [same]
  obtain ⟨es, ended⟩ | ⟨refusal, e, n, step, lost, hrun⟩ | ⟨refusal, hrun, idle⟩ :=
    Op.run_suspended id data (t.noted names)
  · obtain ⟨report, reported, _⟩ := ended.report
    exact ⟨report, reported⟩
  · rw [hrun] at answers
    cases answers.symm.trans (step.lost watched lost)
  · exact absurd holds idle

/-- As long as checkpoints can be read and saved, the outcome of a run that goes on ends it. -/
theorem outcome_applies (watched : [.loadLatest, .save] ⊆ names) (kept : t.scheduler.Kept)
    (current : t.scheduler.isCurrent id ticket = true) (outcome : Outcome)
    (answers : (t.call (.applyOutcome id ticket outcome)).fails names = false) :
    (t.call (.applyOutcome id ticket outcome)).Applies id ticket := by
  have holds := holdsSlot_of_current kept current
  have hrun := perform_applyOutcome id ticket outcome t
  rw [if_pos current] at hrun
  refine ⟨⟨outcome, rfl⟩, ?_⟩
  rw [call, hrun]
  have ends {op : Op σ TransitionReport} (h : ∃ report, (op.run t).1 = .ok report) :
      ∃ report, (((Answer.ended ∘ some) <$> op).run t).1 = .ok (.ended (some report)) := by
    obtain ⟨report, reported⟩ := h
    rw [Op.run_map, reported]
    exact ⟨report, rfl⟩
  cases outcome with
  | completed =>
      obtain ⟨es, ended⟩ | ⟨refusal, _, idle⟩ := Op.run_completed id t
      · exact ends (ended.report.imp fun _ => And.left)
      · exact absurd holds idle
  | failed reason =>
      obtain ⟨first, es, _, ended⟩ | ⟨refusal, _, idle⟩ := Op.run_failed id reason t
      · exact ends (ended.report.imp fun _ => And.left)
      · exact absurd holds idle
  | suspended data =>
      have hnoted := perform_applyOutcome id ticket (.suspended data) (t.noted names)
      rw [if_pos (show (t.noted names).scheduler.isCurrent id ticket = true from current)] at hnoted
      rw [Call.fails, call, call, hnoted, Command.ofOutcome, Command.perform, Op.run_map] at answers
      exact ends (suspended_ends watched holds data answers)

end BuildAdmission.Session
