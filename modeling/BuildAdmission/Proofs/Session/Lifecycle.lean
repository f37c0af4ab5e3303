import BuildAdmission.Proofs.Graph.Record
import BuildAdmission.Proofs.Session.Coherence

namespace BuildAdmission

/-- How an event moves a unit from one status to another, or brings it up. An event leaves the
status of any other unit as it is. -/
inductive Event.Moves (id : UnitId) : Event → Option Status → Option Status → Prop
  | stays {e : Event} {status : Option Status} : Moves id e status status
  | registered {u : WorkUnit} (named : id = u.id) (status : u.status = .pending ∨ u.status = .complete) :
      Moves id (.register u) none (some u.status)
  | parted {plan : SplitPlan} (part : id ∈ plan.partIds) :
      Moves id (.split plan) none (some .pending)
  | reset : Moves id (.reset id) (some .failed) (some .pending)
  | withdrawn : Moves id (.withdraw id) (some .queued) (some .pending)
  | blocked {status : Status} (idle : status = .pending ∨ status = .checkpointed) :
      Moves id (.block id) (some status) (some .pending)
  | enqueued {status : Status} {task : LaunchTask} (idle : status = .pending ∨ status = .checkpointed) :
      Moves id (.enqueue id task) (some status) (some .queued)
  | granted {status : Status} {a : Admission} (idle : status = .pending ∨ status = .checkpointed) :
      Moves id (.grant id a) (some status) (some .running)
  | promoted {a : Admission} : Moves id (.promote id a) (some .queued) (some .running)
  | demoted : Moves id (.demote id) (some .queued) (some .pending)
  | suspended {data : CheckpointData} :
      Moves id (.suspend id data) (some .running) (some .checkpointed)
  | completed : Moves id (.complete id) (some .running) (some .complete)
  | retried : Moves id (.retry id) (some .running) (some .queued)
  | failed : Moves id (.fail id) (some .running) (some .failed)

namespace Session

open BuildAdmission.Graph Event Scheduler

variable {σ : Type} [Storage σ] {m n : Session σ} {e : Event} {g : Graph} {id k : UnitId}
  {u : WorkUnit}

theorem moves_update {f : WorkUnit → WorkUnit} (live : g.unit? k = some u)
    (moves : Moves k e (some u.status) (some (f u).status)) (id : UnitId) :
    Moves id e (g.status? id) ((g.update k f).status? id) := by
  by_cases hk : id = k
  · subst hk
    rw [status?_of_live live, status?_of_live (unit?_update_self live)]
    exact moves
  · rw [status?_update_of_ne hk]
    exact .stays

theorem moves_of_eq {old new : Option Status} (same : new = old) : Moves id e old new :=
  same ▸ .stays

/-- The life cycle of a unit. -/
theorem Step.moves (h : Step m e n) (kept : m.scheduler.Kept) (id : UnitId) :
    Moves id e (m.scheduler.graph.status? id) (n.scheduler.graph.status? id) := by
  cases h with
  | @register u graph status added =>
      have after : graph.status? id = _ := status?_addUnit added id
      by_cases hid : id = u.id
      · rw [if_pos hid] at after
        have free : m.scheduler.graph.status? id = none := by
          rw [hid]
          exact status?_eq_none_iff.2 (addUnit_eq_ok added).1
        rw [free]
        exact after ▸ .registered hid status
      · rw [if_neg hid] at after
        exact moves_of_eq after
  | connect added => exact moves_of_eq (status?_addEdge added)
  | archive live idle free archived => exact moves_of_eq (status?_archive archived)
  | @split plan v ids graph live idle free accepted =>
      rw [foldl_log_scheduler]
      by_cases part : id ∈ plan.partIds
      · obtain ⟨before, after⟩ := status?_part kept.keyed accepted part
        rw [before]
        exact (after : graph.status? id = _) ▸ .parted part
      · exact moves_of_eq (status?_split accepted part)
  | resize | prioritise => exact moves_of_eq (status?_update fun _ => rfl)
  | reset live failed => exact moves_update live (by rw [failed]; exact .reset) id
  | withdraw live idle found =>
      obtain ⟨rfl, taken, _⟩ := AdmissionQueue.remove?_entries found
      obtain ⟨v, live', queued, _⟩ := kept.taken (taken.mem_iff.2 List.mem_cons_self)
      exact moves_update live' (by rw [queued]; exact .withdrawn) id
  | reinstate live idle found =>
      obtain ⟨rfl, taken, _⟩ := AdmissionQueue.remove?_entries found
      have back := kept.setStatus_back (taken.mem_iff.2 List.mem_cons_self)
      simp only [change_scheduler, back]
      exact .stays
  | block live idle gate => exact moves_update live (.blocked idle) id
  | enqueue live idle gate full behind => exact moves_update live (.enqueued idle) id
  | grant live idle gate room read => exact moves_update live (.granted idle) id
  | promote room pop live queued gate read =>
      exact moves_update live (by rw [queued]; exact .promoted) id
  | demote room pop live queued gate =>
      exact moves_update live (by rw [queued]; exact .demoted) id
  | suspend live status slot read saved =>
      exact moves_update live (by rw [status]; exact .suspended) id
  | complete live status slot => exact moves_update live (by rw [status]; exact .completed) id
  | @retry _ u _ _ live status slot tries =>
      have waits := moves_update (e := .retry _)
        (f := (fun v => { v with status := .queued }) ∘
          (fun v => { v with retryCount := u.retryCount + 1 }) ∘
            fun v => { v with status := .queued }) live (by rw [status]; exact .retried) id
      rwa [← update_update, ← update_update] at waits
  | fail live status slot tries => exact moves_update live (by rw [status]; exact .failed) id
  | _ => exact .stays

end Session

end BuildAdmission
