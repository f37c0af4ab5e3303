import BuildAdmission.Proofs.Session.Lifecycle

namespace BuildAdmission.Session

variable {σ : Type} [Storage σ] {m n s t : Session σ} {e : Event} {es : List Event} {id : UnitId}
  {calls : List (Call σ)}

open BuildAdmission.Graph Scheduler

/-! ### The graph -/

theorem Step.grows (h : Step m e n) (built : m.scheduler.graph.Built) :
    n.scheduler.graph.Built ∧ Later m.scheduler.graph n.scheduler.graph := by
  cases h with
  | register status added => exact ⟨built.addUnit added, later_addUnit added⟩
  | connect added =>
      obtain ⟨_, _, _, rfl⟩ := addEdge_eq_ok added
      exact ⟨built.addEdge added, later_update ..⟩
  | archive live idle free archived =>
      exact ⟨built.archive archived, built.apart.later_archive archived⟩
  | split live idle free accepted =>
      rw [foldl_log_scheduler]
      exact ⟨built.split accepted, built.apart.later_split accepted⟩
  | reinstate =>
      obtain ⟨pending, since⟩ := built.revised _ (revision_status .pending)
      obtain ⟨queued, since'⟩ := pending.revised _ (revision_status .queued)
      exact ⟨queued, since.trans since'⟩
  | @retry id u running reason live status slot tries =>
      obtain ⟨released, since⟩ := built.revised id (revision_status .queued)
      obtain ⟨noted, since'⟩ := released.revised id
        (f := fun v => { v with retryCount := u.retryCount + 1 })
        ⟨fun _ => rfl, fun _ => rfl, fun _ => rfl, fun _ => rfl⟩
      obtain ⟨queued, since''⟩ := noted.revised id (revision_status .queued)
      exact ⟨queued, since.trans (since'.trans since'')⟩
  | retune | refuse | drop | stall | expire | progress | unread | unsaved | flush =>
      exact ⟨built, .refl _⟩
  | _ => exact built.revised _ ⟨fun _ => rfl, fun _ => rfl, fun _ => rfl, fun _ => rfl⟩

theorem Trace.grows (h : Trace m es n) (built : m.scheduler.graph.Built) :
    n.scheduler.graph.Built ∧ Later m.scheduler.graph n.scheduler.graph :=
  h.invariant (P := fun n => n.scheduler.graph.Built ∧ Later m.scheduler.graph n.scheduler.graph)
    (fun _ _ _ step ⟨built, since⟩ => ⟨(step.grows built).1, since.trans (step.grows built).2⟩)
    ⟨built, .refl _⟩

theorem Run.grows (run : Run s calls t) (built : s.scheduler.graph.Built) :
    t.scheduler.graph.Built ∧ Later s.scheduler.graph t.scheduler.graph :=
  run.invariant
    (P := fun m => m.scheduler.graph.Built ∧ Later s.scheduler.graph m.scheduler.graph)
    (fun _ _ _ step ⟨built, since⟩ => ⟨(step.grows built).1, since.trans (step.grows built).2⟩)
    (fun _ _ _ h => h) ⟨built, .refl _⟩

theorem Run.built (run : Run s calls t) (opened : Opened s) : t.scheduler.graph.Built :=
  (run.grows opened.started.begun.built).1

/-! ### Complete units -/

theorem Step.done (h : Step m e n) (kept : m.scheduler.Kept) (done : m.scheduler.graph.IsDone id) :
    n.scheduler.graph.IsDone id := by
  have moves := h.moves kept id
  rw [isDone_iff] at done ⊢
  rw [done] at moves
  generalize n.scheduler.graph.status? id = after at moves
  cases moves with
  | stays => rfl
  | blocked idle | enqueued idle | granted idle => rcases idle with idle | idle <;> cases idle

theorem Trace.done (h : Trace m es n) (kept : m.scheduler.Kept) (done : m.scheduler.graph.IsDone id) :
    n.scheduler.graph.IsDone id :=
  (h.invariant (P := fun m => m.scheduler.Kept ∧ m.scheduler.graph.IsDone id)
    (fun _ _ _ step h => ⟨step.kept h.1, step.done h.1 h.2⟩) ⟨kept, done⟩).2

theorem Step.done_complete (h : Step m (.complete id) n) : n.scheduler.graph.IsDone id := by
  cases h with
  | complete live status slot =>
      exact ⟨_, record?_of_live (unit?_update_self live), rfl⟩

end BuildAdmission.Session
