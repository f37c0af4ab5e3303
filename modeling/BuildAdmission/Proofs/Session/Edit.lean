import BuildAdmission.Proofs.Queue.Entries
import BuildAdmission.Proofs.Session.Account

namespace BuildAdmission.Op

open Session

variable {σ α : Type} [Storage σ] {id : UnitId}

theorem addUnit_atomic (u : WorkUnit) (s : Session σ) :
    Atomic s [.register u, .flush] ((addUnit u).run s) := by
  rw [addUnit]
  by_cases status : u.status = .pending ∨ u.status = .complete
  · rw [if_neg (by tauto), run_bind, run_edit]
    cases added : s.scheduler.graph.addUnit u with
    | error refusal => exact .refused
    | ok graph =>
        simp only [Except.map, run_bind, run_record, run_persist]
        exact .done (Step.register status added).flushed
  · rw [if_pos (by tauto)]
    exact .refused

theorem addEdge_atomic (source target : UnitId) (s : Session σ) :
    Atomic s [.connect source target, .flush] ((addEdge source target).run s) := by
  rw [addEdge, run_bind, run_edit]
  cases added : s.scheduler.graph.addEdge source target with
  | error refusal => exact .refused
  | ok graph =>
      simp only [Except.map, run_persist]
      exact .done (Step.connect added).flushed

theorem updateSize_atomic (id : UnitId) (size : UInt64) (s : Session σ) :
    Atomic s [.resize id size, .flush] ((updateSize id size).run s) := by
  rw [updateSize, run_bind, run_edit]
  cases live : s.scheduler.graph.get id with
  | error refusal => exact .refused
  | ok u =>
      simp only [Except.map, run_bind, run_persist, run_scheduler, run_pure]
      exact .done (Step.resize (Graph.get_eq_ok_iff.1 live)).flushed

theorem setThresholds_atomic (thresholds : Thresholds) (s : Session σ) :
    Atomic s [.retune thresholds] ((setThresholds thresholds).run s) := by
  rw [setThresholds, run_bind_ok (run_scheduler s)]
  cases valid : s.scheduler.budget.withThresholds thresholds with
  | error fault => exact .refused
  | ok budget => exact .done (Step.retune valid).trace

theorem resetFailed_atomic (id : UnitId) (s : Session σ) :
    Atomic s [.reset id, .flush] ((resetFailed id).run s) := by
  rw [resetFailed, run_bind_ok (run_scheduler s), run_bind, run_liftM]
  cases live : s.scheduler.graph.unit? id with
  | none =>
      rw [Graph.get_eq_error live]
      exact .refused
  | some u =>
      simp only [Graph.get_eq_ok_iff.2 live]
      by_cases failed : u.status = .failed
      · rw [if_neg (by simpa using failed), run_bind_ok (run_change ..),
          run_bind_ok (run_record ..), run_persist]
        exact .done (Step.reset live failed).flushed
      · rw [if_pos failed]
        exact .refused

theorem run_flush (s : Session σ) : (flush : Op σ Unit).run s =
    ((Storage.flush s.scheduler.graph.records s.storage).1, s.flushed) := by
  rw [flush, run_bind_ok (run_scheduler s), run_ofStorage]
  rfl

/-! ### Taking a unit out -/

omit [Storage σ] in
theorem run_retire_running {f : Graph → Except Refusal (α × Graph)} {s : Session σ} {u : WorkUnit}
    (live : s.scheduler.graph.unit? id = some u) (running : u.status = .running) :
    (retire id f).run s = (.error (.unitInUse id .running), s) := by
  rw [retire, run_bind_ok (run_scheduler s), run_bind, run_liftM, Graph.get_eq_ok_iff.2 live]
  simp only
  rw [if_pos running]
  rfl

omit [Storage σ] in
/-- The edit is made on the graph as it is, or where a launch was withdrawn on the graph in which the
unit is pending. -/
theorem run_retire_idle {f : Graph → Except Refusal (α × Graph)} {s : Session σ} {u : WorkUnit}
    (live : s.scheduler.graph.unit? id = some u) (idle : u.status ≠ .running) :
    (retire id f).run s = match s.scheduler.queue.remove? id with
      | none => match f s.scheduler.graph with
        | .ok (a, graph) => (.ok a, s.change fun s => { s with graph })
        | .error refusal => (.error refusal, s)
      | some (launch, queue) =>
        let withdrawn := s.change fun s => { s.setStatus id .pending with queue }
        match f (s.scheduler.graph.setStatus id .pending) with
        | .ok (a, graph) => (.ok a, withdrawn.change fun s => { s with graph })
        | .error refusal => (.error refusal, withdrawn.change fun s =>
            { s.setStatus id .queued with queue := s.queue.requeue launch }) := by
  rw [retire, run_bind_ok (run_scheduler s), run_bind, run_liftM, Graph.get_eq_ok_iff.2 live]
  simp only
  rw [if_neg idle]
  cases s.scheduler.queue.remove? id with
  | none => exact run_edit f s
  | some found =>
      have same : (s.change fun s => { s.setStatus id .pending with queue := found.2 }).scheduler.graph =
          s.scheduler.graph.setStatus id .pending := rfl
      simp only
      rw [run_bind_ok (run_change ..), run_tryCatch, run_edit, same]
      cases f (s.scheduler.graph.setStatus id .pending) <;> rfl

/-- Either the unit is free, if need be after it was withdrawn, and the edit goes through, or the
edit is refused and a launch that was withdrawn is put back. -/
theorem run_retire (id : UnitId) (f : Graph → Except Refusal (α × Graph)) (s : Session σ) :
    (∃ es m v a graph, Trace s es m ∧ (es = [] ∨ es = [.withdraw id]) ∧
      m.scheduler.graph.unit? id = some v ∧ v.status ≠ .running ∧
      (v.status ≠ .queued ∨ ∀ l ∈ m.scheduler.queue.entries, l.unitId ≠ id) ∧
      f m.scheduler.graph = .ok (a, graph) ∧
      (retire id f).run s = (.ok a, m.change fun s => { s with graph })) ∨
    ∃ es refusal t, Trace s es t ∧ (es = [] ∨ es = [.reinstate id]) ∧
      (retire id f).run s = (.error refusal, t) := by
  cases live : s.scheduler.graph.unit? id with
  | none =>
      rw [retire, run_bind_ok (run_scheduler s), run_bind, run_liftM, Graph.get_eq_error live]
      exact .inr ⟨[], _, s, .nil, .inl rfl, rfl⟩
  | some v =>
      by_cases idle : v.status = .running
      · exact .inr ⟨[], _, s, .nil, .inl rfl, run_retire_running live idle⟩
      · rw [run_retire_idle live idle]
        cases found : s.scheduler.queue.remove? id with
        | none =>
            cases edited : f s.scheduler.graph with
            | error refusal => exact .inr ⟨[], refusal, s, .nil, .inl rfl, rfl⟩
            | ok made =>
                exact .inl ⟨[], s, v, made.1, made.2, .nil, .inl rfl, live, idle,
                  .inr (AdmissionQueue.remove?_eq_none found), edited, rfl⟩
        | some next =>
            obtain ⟨launch, queue⟩ := next
            dsimp only
            cases edited : f (s.scheduler.graph.setStatus id .pending) with
            | error refusal =>
                exact .inr ⟨[.reinstate id], refusal, _, (Step.reinstate live idle found).trace,
                  .inr rfl, rfl⟩
            | ok made =>
                exact .inl ⟨[.withdraw id], _, { v with status := .pending }, made.1, made.2,
                  (Step.withdraw live idle found).trace, .inr rfl, Graph.unit?_update_self live,
                  by simp, .inl (by simp), edited, rfl⟩

theorem archive_retired (id : UnitId) (s : Session σ) :
    ∃ es, Retired s id (.archive id) ((archive id).run s) es := by
  obtain ⟨es, m, v, u, graph, trace, hes, live, idle, free, archived, hrun⟩ |
    ⟨es, refusal, t, trace, hes, hrun⟩ := run_retire id (·.archive id) s
  · rw [archive, run_bind_ok hrun, run_bind_ok (run_record ..), run_bind_ok (run_persist _), run_pure]
    exact ⟨_, .done (trace.append (Step.archive live idle free archived).flushed) hes⟩
  · rw [archive, run_bind_error hrun]
    exact ⟨es, .refused trace hes⟩

theorem split_retired (plan : SplitPlan) (s : Session σ) :
    ∃ es, Retired s plan.whole (.split plan) ((split plan).run s) es := by
  obtain ⟨es, m, v, ids, graph, trace, hes, live, idle, free, accepted, hrun⟩ |
    ⟨es, refusal, t, trace, hes, hrun⟩ := run_retire plan.whole (·.split plan) s
  · rw [split, run_bind_ok hrun, run_bind_ok (run_record ..), run_bind_ok (run_forIn_record ..),
      run_bind_ok (run_persist _), run_pure]
    exact ⟨_, .done (trace.append (Step.split live idle free accepted).flushed) hes⟩
  · rw [split, run_bind_error hrun]
    exact ⟨es, .refused trace hes⟩

end BuildAdmission.Op
