import BuildAdmission.Proofs.Scheduler.Restore
import BuildAdmission.Proofs.Session.Run

namespace BuildAdmission

namespace Session

variable {σ : Type} [Storage σ] {m n s t : Session σ} {e : Event} {es : List Event}
  {calls : List (Call σ)}

open BuildAdmission.Graph Scheduler

theorem Step.kept (h : Step m e n) (hm : m.scheduler.Kept) : n.scheduler.Kept := by
  cases h with
  | register status added => exact hm.edit (hm.keyed.addUnit added) (standing_addUnit added status)
  | connect added => exact hm.edit (hm.keyed.addEdge added) (standing_addEdge added)
  | resize live =>
      exact hm.edit (hm.keyed.update fun _ => rfl) (standing_update_of_eq fun _ _ => rfl)
  | retune valid => exact ⟨hm.keyed, hm.slots, hm.queue⟩
  | reset live failed =>
      refine hm.edit (hm.keyed.update fun _ => rfl) (standing_update_of_eq fun v hv => ?_)
      cases live.symm.trans hv
      exact (WorkUnit.standing_eq_none (congrArg Status.isActive failed)).symm
  | withdraw live idle found =>
      obtain ⟨rfl, taken⟩ := AdmissionQueue.remove?_entries found
      exact hm.withdraw taken
  | reinstate live idle found =>
      obtain ⟨rfl, taken⟩ := AdmissionQueue.remove?_entries found
      have back := hm.setStatus_back (taken.1.mem_iff.2 List.mem_cons_self)
      simp only [change_scheduler, back]
      exact hm.requeue taken
  | archive live idle free archived =>
      exact hm.rest (hm.keyed.archive archived) (standing_archive archived)
        (ne_running live idle) (hm.ne_queued live free)
  | split live idle free accepted =>
      rw [foldl_log_scheduler]
      exact hm.rest (hm.keyed.split accepted) (standing_split accepted)
        (ne_running live idle) (hm.ne_queued live free)
  | prioritise live idle =>
      refine hm.edit (hm.keyed.update fun _ => rfl) (standing_update_of_eq fun v hv => ?_)
      cases live.symm.trans hv
      rw [WorkUnit.standing_eq_none (WorkUnit.isActive_of_idle idle)]
      exact WorkUnit.standing_eq_none (WorkUnit.isActive_of_idle idle)
  | block live idle gate =>
      refine hm.edit (hm.keyed.update fun _ => rfl) (standing_update_of_eq fun v hv => ?_)
      cases live.symm.trans hv
      exact (WorkUnit.standing_eq_none (WorkUnit.isActive_of_idle idle)).symm
  | refuse live idle gate => exact hm
  | enqueue live idle gate full behind =>
      exact hm.enqueue live (WorkUnit.isActive_of_idle idle) _
  | grant live idle gate room read =>
      exact hm.start live (WorkUnit.isActive_of_idle idle) room _ _
  | promote room pop live queued gate read =>
      exact hm.promote (AdmissionQueue.pop?_entries pop) live room _ _
  | demote room pop live queued gate => exact hm.withdraw (AdmissionQueue.pop?_entries pop)
  | drop pop stale =>
      -- Every launch in the queue is that of a unit that waits, so there is nothing to drop.
      obtain ⟨u, live, status, _⟩ :=
        hm.taken ((AdmissionQueue.pop?_entries pop).1.mem_iff.2 List.mem_cons_self)
      simp [live, status] at stale
  | stall room pop live queued gate read =>
      exact hm.requeue (AdmissionQueue.pop?_entries pop)
  | suspend live status slot read saved => exact hm.release live status rfl
  | complete live status slot => exact hm.release live status rfl
  | retry live status slot tries => exact hm.retry live status _ _
  | fail live status slot tries => exact hm.release live status rfl
  | progress live status slot =>
      exact ⟨hm.keyed,
        hm.slots.modify (f := fun r => { r with lastProgress := m.clock }) fun _ => rfl, hm.queue⟩
  | expire => exact hm
  | unread read => exact hm
  | unsaved read save => exact hm
  | flush => exact hm

theorem Opened.started (h : Opened s) : s.scheduler.Started := by
  cases h with
  | new valid made => exact started_new (Budget.ascending_new valid) made
  | restored valid made => exact started_restore (Budget.ascending_new valid) made

theorem Run.kept (run : Run s calls t) (opened : Opened s) : t.scheduler.Kept :=
  run.invariant (fun _ _ _ step => step.kept) (fun _ _ _ h => h) opened.started.kept

theorem Trace.kept (h : Trace m es n) (hm : m.scheduler.Kept) : n.scheduler.Kept :=
  h.invariant (P := fun m => m.scheduler.Kept) (fun _ _ _ step => step.kept) hm

/-- Whatever is called and whatever fails, the books of a session agree after every call. At every
moment of a call, moreover, the launch that is first in the queue is that of a live unit that
waits, so that a promotion never finds a stale one. -/
theorem Run.books_agree (run : Run s calls t) (opened : Opened s) :
    t.scheduler.Coherent ∧
      ∀ es m, Trace t es m → ∀ launch queue, m.scheduler.queue.pop? = some (launch, queue) →
        ∃ u, m.scheduler.graph.unit? launch.unitId = some u ∧ u.status = .queued := by
  have kept := run.kept opened
  refine ⟨kept.coherent, ?_⟩
  intro es m trace launch queue pop
  obtain ⟨u, live, status, _⟩ := (trace.kept kept).taken
    ((AdmissionQueue.pop?_entries pop).1.mem_iff.2 List.mem_cons_self)
  exact ⟨u, live, status⟩

theorem books_agree_two_calls : ∃ t : Session Vault, t.scheduler.running.keys = ["lib"] ∧
    t.scheduler.Coherent :=
  have run := (Run.nil.call (.addUnit ⟨"lib", .core, .pending, 0, 1000, ∅, 0, false⟩)).call
    (.requestLaunch "lib" ⟨"build", 1000⟩ 3)
  ⟨_, by decide +kernel, (run.books_agree opened_fresh).1⟩

end Session

end BuildAdmission
