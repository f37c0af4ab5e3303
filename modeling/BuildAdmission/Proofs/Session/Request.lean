import BuildAdmission.Proofs.Session.Readiness

namespace BuildAdmission

variable {id : UnitId} {u : WorkUnit} {task : LaunchTask} {priority : Int32}

namespace Graph

variable {g : Graph}

theorem mem_unmetOf {d : UnitId} : d ∈ g.unmetOf u ↔
    d ∈ u.dependencies ∧ ¬ ∃ v, g.unit? d = some v ∧ v.status = .complete := by
  rw [unmetOf, List.mem_filter, Bool.not_eq_true', ← Bool.not_eq_true, isComplete_iff]
  rfl

theorem ascending_unmetOf (g : Graph) (u : WorkUnit) : (g.unmetOf u).Pairwise (· < ·) :=
  u.dependencies.ascending.sublist List.filter_sublist

end Graph

namespace Scheduler

variable {s : Scheduler}

/-- The lower priority number stands first, and of the same priority the lower name. -/
theorem ordered_launchable (keyed : s.graph.Keyed) : s.launchable.Pairwise fun x y =>
    ∃ u v, s.graph.unit? x = some u ∧ s.graph.unit? y = some v ∧
      (u.priority < v.priority ∨ u.priority = v.priority ∧ x < y) := by
  have live {u : WorkUnit} {p : WorkUnit → Bool}
      (hu : u ∈ WorkUnit.sortByPriority (s.graph.live.values.filter p)) :
      s.graph.unit? u.id = some u := by
    have mem := List.mem_of_mem_filter (WorkUnit.mem_sortByPriority.1 hu)
    obtain ⟨k, live⟩ := Graph.mem_live_values.1 mem
    exact (keyed.live k u live).symm ▸ live
  rw [launchable, List.pairwise_map]
  refine (WorkUnit.pairwise_sortByPriority (keyed.pairwise_values.filter _)).imp_of_mem ?_
  intro u v hu hv before
  exact ⟨u, v, live hu, live hv, WorkUnit.before_iff.1 before⟩

theorem nodup_launchable (keyed : s.graph.Keyed) : s.launchable.Nodup := by
  refine (ordered_launchable keyed).imp ?_
  rintro x _ ⟨u, v, live, live', before⟩ rfl
  cases live.symm.trans live'
  rcases before with less | ⟨_, less⟩
  · exact Int32.lt_irrefl less
  · exact String.lt_irrefl x less

end Scheduler

namespace Session

variable {σ : Type} [Storage σ] {s t : Session σ} {calls : List (Call σ)}

theorem call_requestLaunch (t : Session σ) (id : UnitId) (task : LaunchTask) (priority : Int32) :
    (t.call (.requestLaunch id task priority)).answer =
      ((Op.requestLaunch id task priority).run t).1.map .launched := by
  rw [call, Command.perform, Op.run_map]

/-- What is listed as launchable is what a request for a slot does not turn away: it is given a
slot, has to wait for one or is too large, unless the storage fails. Any other live unit is blocked
by the dependencies that are not complete, or its status does not allow a launch. -/
theorem Run.launchable_exact (run : Run s calls t) (opened : Opened s) :
    (t.scheduler.launchable.Nodup ∧ t.scheduler.launchable.Pairwise fun x y =>
      ∃ u v, t.scheduler.graph.unit? x = some u ∧ t.scheduler.graph.unit? y = some v ∧
        (u.priority < v.priority ∨ u.priority = v.priority ∧ x < y)) ∧
    ∀ id u, t.scheduler.graph.unit? id = some u → ∀ task priority,
      let answer := (t.call (.requestLaunch id task priority)).answer
      (id ∈ t.scheduler.launchable →
        (∃ a, answer = .ok (.launched (.admitted a))) ∨
        (∃ position, answer = .ok (.launched (.queued position))) ∨
        (∃ decision, answer = .ok (.launched (.splitRequired decision))) ∨
        ∃ refusal, answer = .error refusal ∧ (Storage.latest? id t.storage).1 = .error refusal) ∧
      (id ∉ t.scheduler.launchable →
        (∃ unmet, answer = .ok (.launched (.blocked unmet)) ∧ unmet ≠ [] ∧
          unmet.Pairwise (· < ·) ∧ ∀ d, d ∈ unmet ↔ d ∈ u.dependencies ∧
            ¬ ∃ v, t.scheduler.graph.unit? d = some v ∧ v.status = .complete) ∨
        (u.status ≠ .pending ∧ u.status ≠ .checkpointed ∧
          answer = .error (.invalidTransition id u.status .queued))) := by
  have keyed := (run.built opened).keyed
  refine ⟨⟨Scheduler.nodup_launchable keyed, Scheduler.ordered_launchable keyed⟩, ?_⟩
  intro id u live task priority
  simp only [call_requestLaunch, Op.run_requestLaunch live]
  constructor
  · intro listed
    obtain ⟨v, live', idle, met⟩ := (Scheduler.mem_launchable keyed).1 listed
    cases live.symm.trans live'
    rw [if_pos idle]
    cases gate : t.scheduler.gate u task with
    | waiting unmet =>
        obtain ⟨same, left⟩ := Scheduler.gate_eq_waiting_iff.1 gate
        exact absurd (same.symm.trans met) left
    | tooLarge decision reason => exact .inr (.inr (.inl ⟨decision, rfl⟩))
    | passed =>
        cases t.scheduler.isFull with
        | true => exact .inr (.inl ⟨_, rfl⟩)
        | false =>
            rcases Storage.latest? id t.storage with ⟨refusal | latest, storage⟩
            · exact .inr (.inr (.inr ⟨refusal, rfl, rfl⟩))
            · exact .inl ⟨_, rfl⟩
  · intro unlisted
    by_cases idle : u.status = .pending ∨ u.status = .checkpointed
    · have left : t.scheduler.graph.unmetOf u ≠ [] := fun met =>
        unlisted ((Scheduler.mem_launchable keyed).2 ⟨u, live, idle, met⟩)
      rw [if_pos idle, Scheduler.gate_eq_waiting_iff.2 ⟨rfl, left⟩]
      exact .inl ⟨_, rfl, left, Graph.ascending_unmetOf .., fun d => Graph.mem_unmetOf⟩
    · rw [if_neg idle]
      obtain ⟨awake, fresh⟩ := not_or.1 idle
      exact .inr ⟨awake, fresh, rfl⟩

/-- `lib` can go on, and `app` is blocked by it. -/
theorem launchable_exact_stacked : ∃ (t : Session Vault) (u : WorkUnit) (unmet : List UnitId),
    Run fresh (fresh.callsOf stackedCalls) t ∧ t.scheduler.launchable = ["lib"] ∧
    t.scheduler.graph.unit? "app" = some u ∧ u.dependencies = .ofList ["base", "lib"] ∧
    (t.call (.requestLaunch "app" ⟨"build", 1000⟩ 3)).answer = .ok (.launched (.blocked unmet)) ∧
    unmet ≠ [] ∧ ∀ d, d ∈ unmet ↔ d ∈ u.dependencies ∧
      ¬ ∃ v, t.scheduler.graph.unit? d = some v ∧ v.status = .complete := by
  have run := run_callAll fresh stackedCalls
  have named : (fresh.callAll stackedCalls).scheduler.launchable = ["lib"] := by decide +kernel
  have live : (fresh.callAll stackedCalls).scheduler.graph.unit? "app" =
      some ⟨"app", .core, .pending, 3, 1000, .ofList ["base", "lib"], 0, false⟩ := by decide +kernel
  obtain ⟨_, answers⟩ := run.launchable_exact opened_fresh
  obtain ⟨unmet, blocked, left, _, open'⟩ | ⟨awake, _⟩ :=
    (answers "app" _ live ⟨"build", 1000⟩ 3).2 (by simp [named])
  · exact ⟨_, _, unmet, run, named, live, rfl, blocked, left, open'⟩
  · exact absurd rfl awake

end Session

end BuildAdmission
