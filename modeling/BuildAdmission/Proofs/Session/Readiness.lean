import BuildAdmission.Proofs.Graph.Order
import BuildAdmission.Proofs.Session.Durability
import BuildAdmission.Scheduler.Report

namespace BuildAdmission

open Relation

variable {x id : UnitId} {u : WorkUnit} {task : LaunchTask} {priority : Int32} {unmet : List UnitId}

namespace Graph

variable {g : Graph}

/-- Where no unit is on a cycle, a unit that is not complete comes, along its dependencies, to one
that waits for none. -/
theorem exists_unblocked (hg : g.Closed) (acyclic : ∀ x, ¬ g.OnCycle x) (live : g.unit? x = some u)
    (incomplete : u.status ≠ .complete) :
    ∃ y v, ReflTransGen g.DependsOn x y ∧ g.unit? y = some v ∧ v.status ≠ .complete ∧
      g.unmetOf v = [] := by
  have reached (x : { x // x ∈ g.live.keys }) (u : WorkUnit) (live : g.unit? x = some u)
      (incomplete : u.status ≠ .complete) :
      ∃ y v, ReflTransGen g.DependsOn x y ∧ g.unit? y = some v ∧ v.status ≠ .complete ∧
        g.unmetOf v = [] := by
    induction x using (wellFounded_of_acyclic acyclic).induction generalizing u with
    | _ x ih =>
        by_cases met : g.unmetOf u = []
        · exact ⟨x, u, .refl, live, incomplete, met⟩
        -- A dependency that is not met is a live unit that is not complete.
        · obtain ⟨d, hd⟩ := List.exists_mem_of_ne_nil _ met
          obtain ⟨hdep, open'⟩ := List.mem_filter.1 hd
          have hstep : g.DependsOn x d := dependsOn_iff.2 ⟨u, live, hdep⟩
          obtain ⟨v, hv⟩ := hg x d hstep
          have incomplete : v.status ≠ .complete := by simpa [isComplete, hv] using open'
          obtain ⟨y, w, path, hy⟩ :=
            ih ⟨d, IdMap.mem_keys_iff.2 ⟨v, hv⟩⟩ (.single hstep) v hv incomplete
          exact ⟨y, w, .head hstep path, hy⟩
  exact reached ⟨x, IdMap.mem_keys_iff.2 ⟨u, live⟩⟩ u live incomplete

end Graph

namespace Scheduler

variable {s : Scheduler}

theorem gate_eq_waiting_iff :
    s.gate u task = .waiting unmet ↔ s.graph.unmetOf u = unmet ∧ unmet ≠ [] := by
  rw [gate]
  cases s.graph.unmetOf u with
  | nil =>
      refine iff_of_false ?_ fun some => some.2 some.1.symm
      cases refusal : (s.budget.check u.declaredSize task.estimatedCost).refusal? <;> simp [refusal]
  | cons d ds =>
      simp only [Gate.waiting.injEq, iff_self_and]
      rintro rfl
      simp

theorem mem_launchable (keyed : s.graph.Keyed) :
    id ∈ s.launchable ↔ ∃ u, s.graph.unit? id = some u ∧
      (u.status = .pending ∨ u.status = .checkpointed) ∧ s.graph.unmetOf u = [] := by
  simp only [launchable, List.mem_map, WorkUnit.mem_sortByPriority, List.mem_filter,
    Graph.mem_live_values, Bool.and_eq_true, Bool.or_eq_true, decide_eq_true_eq, List.isEmpty_iff]
  constructor
  · rintro ⟨u, ⟨⟨k, live⟩, launchable⟩, rfl⟩
    exact ⟨u, (keyed.live k u live).symm ▸ live, launchable⟩
  · rintro ⟨u, live, launchable⟩
    exact ⟨u, ⟨⟨id, live⟩, launchable⟩, keyed.live id u live⟩

end Scheduler

namespace Session

open BuildAdmission.Graph

variable {σ : Type} [Storage σ] {s t : Session σ} {calls : List (Call σ)}

/-- A launch is only blocked if the unit has unmet dependencies. -/
theorem unmet_of_blocked
    (h : (t.call (.requestLaunch id task priority)).answer = .ok (.launched (.blocked unmet))) :
    ∃ u, t.scheduler.graph.unit? id = some u ∧ t.scheduler.graph.unmetOf u ≠ [] := by
  obtain ⟨answer, es, launched, answered, trace⟩ := perform_requestLaunch id task priority t
  rw [h] at answered
  obtain ⟨outcome, rfl, same⟩ := Except.map_eq_ok_iff.1 answered.symm
  cases same
  cases launched
  -- The priority is noted before the gate is asked.
  cases trace with
  | cons noted rest =>
      cases noted with
      | prioritise live idle =>
          cases rest with
          | cons blocked _ =>
              cases blocked with
              | block live' idle' gate =>
                  cases (unit?_update_self live).symm.trans live'
                  have same := (Scheduler.gate_prioritise ..).symm.trans gate
                  obtain ⟨unmet, left⟩ := Scheduler.gate_eq_waiting_iff.1 same
                  exact ⟨_, live, unmet ▸ left⟩

/-- Where no unit is on a cycle, work that is left has a unit to go on with. If no unit runs, waits
for a slot or has failed, such a unit can be launched, and no launch of such a unit is blocked. -/
theorem Run.no_deadlock (run : Run s calls t) (opened : Opened s)
    (acyclic : ∀ x, ¬ t.scheduler.graph.OnCycle x) (live : t.scheduler.graph.unit? x = some u)
    (incomplete : u.status ≠ .complete) :
    (∃ y v, t.scheduler.graph.unit? y = some v ∧ v.status ≠ .complete ∧
      t.scheduler.graph.unmetOf v = []) ∧
    ((∀ y v, t.scheduler.graph.unit? y = some v →
        v.status ≠ .running ∧ v.status ≠ .queued ∧ v.status ≠ .failed) →
      t.scheduler.launchable ≠ []) ∧
    ∀ y ∈ t.scheduler.launchable, ∀ task priority unmet,
      (t.call (.requestLaunch y task priority)).answer ≠ .ok (.launched (.blocked unmet)) := by
  have built := run.built opened
  obtain ⟨y, v, _, hv, left, met⟩ := exists_unblocked built.closed acyclic live incomplete
  refine ⟨⟨y, v, hv, left, met⟩, ?_, ?_⟩
  · intro rests
    obtain ⟨idle, unqueued, unfailed⟩ := rests y v hv
    refine List.ne_nil_of_mem ((Scheduler.mem_launchable built.keyed).2 ⟨v, hv, ?_, met⟩)
    cases status : v.status with
    | pending => exact .inl rfl
    | checkpointed => exact .inr rfl
    | queued => exact absurd status unqueued
    | running => exact absurd status idle
    | complete => exact absurd status left
    | failed => exact absurd status unfailed
  · intro k hk task priority unmet blocked
    obtain ⟨w, hw, _, met⟩ := (Scheduler.mem_launchable built.keyed).1 hk
    obtain ⟨w', hw', open'⟩ := unmet_of_blocked blocked
    cases hw.symm.trans hw'
    exact open' met

/-- `base` is complete, `lib` was suspended, `app` depends on both and its launch was blocked. -/
def stackedCalls : List Command :=
  [.addUnit ⟨"base", .core, .complete, 0, 1000, ∅, 0, false⟩,
    .addUnit ⟨"lib", .core, .pending, 0, 1000, .ofList ["base"], 0, false⟩,
    .addUnit ⟨"app", .core, .pending, 0, 1000, .ofList ["base", "lib"], 0, false⟩,
    .requestLaunch "lib" ⟨"build", 1000⟩ 3, .requestLaunch "app" ⟨"build", 1000⟩ 3,
    .suspended "lib" halfDone]

theorem no_deadlock_stacked : ∃ t : Session Vault, Run fresh (fresh.callsOf stackedCalls) t ∧
    (∀ x, ¬ t.scheduler.graph.OnCycle x) ∧
    (t.scheduler.graph.live.values.map fun u => (u.id, u.status)) =
      [("app", .pending), ("base", .complete), ("lib", .checkpointed)] ∧
    t.scheduler.launchable = ["lib"] ∧
    ∀ task priority unmet,
      (t.call (.requestLaunch "lib" task priority)).answer ≠ .ok (.launched (.blocked unmet)) := by
  have run := run_callAll fresh stackedCalls
  have acyclic := detectCycles_eq_nil_iff.1
    (show (fresh.callAll stackedCalls).scheduler.graph.detectCycles = [] by decide +kernel)
  have named : (fresh.callAll stackedCalls).scheduler.launchable = ["lib"] := by decide +kernel
  obtain ⟨_, _, unblocked⟩ := run.no_deadlock (x := "app")
    (u := ⟨"app", .core, .pending, 3, 1000, .ofList ["base", "lib"], 0, false⟩) opened_fresh acyclic
    (by decide +kernel) (by decide)
  exact ⟨_, run, acyclic, by decide +kernel, named, unblocked "lib" (by simp [named])⟩

end Session

end BuildAdmission
