import BuildAdmission.Proofs.Budget
import BuildAdmission.Proofs.Graph.History
import BuildAdmission.Proofs.Scheduler.Kept
import BuildAdmission.Proofs.Session.Operation
import BuildAdmission.Scheduler.Restore

namespace BuildAdmission.Scheduler

open Op

variable {σ : Type} [Storage σ] {s : Scheduler} {storage storage' : σ} {limits : Limits}
  {budget : Budget}

theorem recover_eq_ok {u v : WorkUnit} (h : (recover u).run storage = (.ok v, storage')) :
    v.archived = u.archived ∧ (v.archived = true ∨ v.status.isActive = false) := by
  unfold recover at h
  split at h
  · next rests =>
    cases h
    refine ⟨rfl, ?_⟩
    simpa using rests
  · obtain ⟨latest, r, _, h⟩ := run_bind_eq_ok_iff.1 h
    cases h
    refine ⟨rfl, .inr ?_⟩
    simp only
    split <;> rfl

theorem recoverAll_eq_ok {us vs : List WorkUnit}
    (h : (us.mapM recover).run storage = (.ok vs, storage')) :
    ∀ v ∈ vs, v.archived = true ∨ v.status.isActive = false := by
  intro v hv
  obtain ⟨_, results, _⟩ :=
    run_mapM (P := fun _ => True) (fun _ _ _ _ hu _ => ⟨trivial, (recover_eq_ok hu).2⟩) h trivial
  obtain ⟨_, _, rests⟩ := results v hv
  exact rests

/-- What a scheduler that was restored is made of, and what its storage holds. -/
theorem restore_eq_ok (h : (restore limits budget).run storage = (.ok s, storage')) :
    ∃ us vs graph made r r', Storage.load storage = (.ok us, r) ∧
      (us.mapM recover).run r = (.ok vs, r') ∧ Graph.ofRecords vs = .ok graph ∧
      new limits budget = .ok made ∧ s = { made with graph } ∧
      storage' = (Storage.flush graph.records r').2 := by
  obtain ⟨us, r, hload, h⟩ := run_bind_eq_ok_iff.1 h
  obtain ⟨vs, r', hrecover, h⟩ := run_bind_eq_ok_iff.1 h
  obtain ⟨graph, r₁, hread, h⟩ := run_bind_eq_ok_iff.1 h
  obtain ⟨made, r₂, hmade, h⟩ := run_bind_eq_ok_iff.1 h
  obtain ⟨hgraph, rfl⟩ : Graph.ofRecords vs = .ok graph ∧ r' = r₁ := Prod.mk.inj hread
  obtain ⟨hnew, rfl⟩ : new limits budget = .ok made ∧ r' = r₂ := Prod.mk.inj hmade
  rw [run_bind_ok (run_attempt ..)] at h
  cases h
  exact ⟨us, vs, graph, made, r, r', hload, hrecover, hgraph, hnew, rfl, rfl⟩

theorem standing_ofRecords {us : List WorkUnit} {graph : Graph} (h : Graph.ofRecords us = .ok graph)
    (rests : ∀ u ∈ us, u.archived = true ∨ u.status.isActive = false) :
    graph.standing = fun _ => none := by
  funext id
  cases live : graph.unit? id with
  | none => exact Graph.standing_of_absent live
  | some u =>
      obtain ⟨hu, archived⟩ := Graph.mem_of_ofRecords h live
      rw [Graph.standing_of_live live]
      refine WorkUnit.standing_eq_none ((rests u hu).resolve_left ?_)
      simp [archived]

/-- A scheduler as a session begins with it: no unit runs and none waits. -/
structure Started (s : Scheduler) : Prop where
  check : s.limits.check = .ok ()
  ascending : s.budget.thresholds.Ascending
  begun : s.graph.Begun
  rests : s.graph.standing = fun _ => none
  queue : s.queue = .empty
  running : s.running = ∅

theorem started_new (ascending : budget.thresholds.Ascending) (h : new limits budget = .ok s) :
    s.Started := by
  have check := check_of_new h
  cases new_eq_ok h
  exact ⟨check, ascending, .empty, rfl, rfl, rfl⟩

theorem started_restore (ascending : budget.thresholds.Ascending)
    (h : (restore limits budget).run storage = (.ok s, storage')) : s.Started := by
  obtain ⟨us, vs, graph, made, r, r', _, hrecover, hgraph, hnew, rfl, _⟩ := restore_eq_ok h
  have rests := standing_ofRecords hgraph (recoverAll_eq_ok hrecover)
  have started := started_new ascending hnew
  exact ⟨started.check, started.ascending, .read hgraph, rests, started.queue, started.running⟩

theorem Started.kept (h : s.Started) : s.Kept := by
  refine ⟨h.begun.built.keyed, ?_, ?_⟩
  · rw [h.rests, h.running]
    exact .none_held _ _
  · rw [h.rests, h.queue, AdmissionQueue.entries_empty]
    exact .none_waiting _

end BuildAdmission.Scheduler
