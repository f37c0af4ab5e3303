import BuildAdmission.Proofs.Session.Coherence
import BuildAdmission.Proofs.Session.Completion

namespace BuildAdmission

/-! ### Taking a unit out of a graph -/

namespace Graph

variable {α β : Type} {g : Graph} {id : UnitId} {u : WorkUnit} {f : WorkUnit → WorkUnit}

/-- A unit may be taken out exactly if no other unit depends on it, nor it on itself. A refusal names
those that do, in order of name. -/
structure Releases (g : Graph) (id : UnitId) (u : WorkUnit) (answer : Except Refusal α) : Prop where
  accepted : (∃ a, answer = .ok a) ↔ (∀ k ≠ id, ¬g.DependsOn k id) ∧ id ∉ u.dependencies
  refused : ∀ refusal, answer = .error refusal → ∃ ids, refusal = .unitInUse id (.requiredBy ids) ∧
    ids.Pairwise (· < ·) ∧ ∀ k, k ∈ ids ↔ g.DependsOn k id

theorem Keyed.ascending_dependentsOf (hg : g.Keyed) (id : UnitId) :
    (g.dependentsOf id).Pairwise (· < ·) := by
  have names : g.live.values.Pairwise (·.id < ·.id) := by
    rw [← List.pairwise_map (f := WorkUnit.id) (R := (· < ·)), IdMap.map_values_eq_keys hg.live,
      IdMap.keys, List.pairwise_map]
    exact g.live.ascending
  rw [dependentsOf, List.pairwise_map]
  exact names.filter _

theorem dependentsOf_eq_nil_iff (hg : g.Keyed) (live : g.unit? id = some u) :
    g.dependentsOf id = [] ↔ (∀ k ≠ id, ¬g.DependsOn k id) ∧ id ∉ u.dependencies := by
  rw [List.eq_nil_iff_forall_not_mem]
  simp only [mem_dependentsOf hg]
  constructor
  · intro free
    exact ⟨fun k _ => free k, fun itself => free id (dependsOn_iff.2 ⟨u, live, itself⟩)⟩
  · rintro ⟨others, itself⟩ k needs
    by_cases same : k = id
    · subst same
      obtain ⟨v, found, needed⟩ := dependsOn_iff.1 needs
      cases live.symm.trans found
      exact itself needed
    · exact others k same needs

theorem dependentsOf_update (hf : Revision f) (id k : UnitId) :
    (g.update id f).dependentsOf k = g.dependentsOf k := by
  have revised (e : UnitId × WorkUnit) : (if e.1 = id then f e.2 else e.2).dependencies =
      e.2.dependencies ∧ (if e.1 = id then f e.2 else e.2).id = e.2.id := by
    split
    · exact ⟨hf.dependencies e.2, hf.id e.2⟩
    · exact ⟨rfl, rfl⟩
  simp only [dependentsOf, update, IdMap.modify, IdMap.mapValues, IdMap.values, List.map_map,
    List.filter_map, Function.comp_def, revised]

/-- The verdict on taking out a live unit, from the units that depend on it. -/
theorem archive_of_live (live : g.unit? id = some u) : g.archive id =
    if g.dependentsOf id = [] then
      .ok ({ u with archived := true },
        ⟨g.live.erase id, g.archived.insert id { u with archived := true }⟩)
    else .error (.unitInUse id (.requiredBy (g.dependentsOf id))) := by
  rw [archive, get_eq_ok_iff.2 live, Except.ok_bind]
  cases g.dependentsOf id <;> rfl

theorem releases_of_verdict (hg : g.Keyed) (live : g.unit? id = some u) {answer : Except Refusal α}
    {a : α} (verdict : answer = if g.dependentsOf id = [] then .ok a
      else .error (.unitInUse id (.requiredBy (g.dependentsOf id)))) : g.Releases id u answer where
  accepted := by
    rw [verdict, ← dependentsOf_eq_nil_iff hg live]
    split
    · next free => exact iff_of_true ⟨a, rfl⟩ free
    · next needed => exact iff_of_false nofun needed
  refused := by
    intro refusal refused
    rw [verdict] at refused
    split at refused
    · cases refused
    · cases refused
      exact ⟨_, rfl, hg.ascending_dependentsOf id, fun _ => mem_dependentsOf hg⟩

theorem Releases.map {answer : Except Refusal α} (h : g.Releases id u answer) (f : α → β) :
    g.Releases id u (answer.map f) := by
  cases answer with
  | error refusal =>
      refine ⟨(iff_of_false nofun nofun).trans h.accepted, ?_⟩
      rintro _ ⟨⟩
      exact h.refused refusal rfl
  | ok a => exact ⟨(iff_of_true ⟨f a, rfl⟩ ⟨a, rfl⟩).trans h.accepted, nofun⟩

end Graph

/-! ### Taking a unit out of a session -/

namespace Op

open Session

variable {σ : Type} [Storage σ] {s : Session σ} {id : UnitId} {u : WorkUnit}

theorem run_archive (s : Session σ) (id : UnitId) :
    ((archive id).run s).1 = ((retire id (·.archive id)).run s).1 := by
  rw [archive, run_bind]
  rcases (retire id (·.archive id)).run s with ⟨e | v, t⟩
  · rfl
  · simp only
    rw [run_bind_ok (run_record ..), run_bind_ok (run_persist _), run_pure]

/-- The verdict is the graph's, which may have been made ready by a withdrawal. -/
theorem run_archive_idle (live : s.scheduler.graph.unit? id = some u) (idle : u.status ≠ .running) :
    ∃ g, (g = s.scheduler.graph ∨ g = s.scheduler.graph.setStatus id .pending) ∧
      ((archive id).run s).1 = (g.archive id).map (·.1) := by
  rw [run_archive, run_retire_idle live idle]
  cases s.scheduler.queue.remove? id with
  | none =>
      refine ⟨_, .inl rfl, ?_⟩
      cases s.scheduler.graph.archive id <;> rfl
  | some found =>
      refine ⟨_, .inr rfl, ?_⟩
      dsimp only
      cases (s.scheduler.graph.setStatus id .pending).archive id <;> rfl

theorem archive_releases (hg : s.scheduler.graph.Keyed)
    (live : s.scheduler.graph.unit? id = some u) (idle : u.status ≠ .running) :
    s.scheduler.graph.Releases id u ((archive id).run s).1 := by
  obtain ⟨g, kept, answer⟩ := run_archive_idle live idle
  have same : g.dependentsOf id = s.scheduler.graph.dependentsOf id ∧ ∃ v, g.unit? id = some v := by
    rcases kept with rfl | rfl
    · exact ⟨rfl, u, live⟩
    · exact ⟨Graph.dependentsOf_update (Graph.revision_status .pending) id id, _,
        Graph.unit?_update_self live⟩
  obtain ⟨dependents, v, found⟩ := same
  refine Graph.releases_of_verdict hg live (a := { v with archived := true }) ?_
  rw [answer, Graph.archive_of_live found, dependents]
  split <;> rfl

end Op

namespace Session

variable {σ : Type} [Storage σ] {s t : Session σ} {calls : List (Call σ)} {g : Graph}

/-- A live unit is taken out of a graph exactly if no other unit depends on it and it does not depend
on itself, and out of a session exactly if it does not run either. -/
theorem Run.archive_exact (run : Run s calls t) (opened : Opened s) (built : g.Built)
    (id : UnitId) :
    (∀ u, g.unit? id = some u → g.Releases id u (g.archive id)) ∧
    ∀ u, t.scheduler.graph.unit? id = some u →
      (u.status = .running → (t.call (.archive id)).answer = .error (.unitInUse id .running)) ∧
      (u.status ≠ .running → t.scheduler.graph.Releases id u (t.call (.archive id)).answer) := by
  refine ⟨fun u live => ?_, fun u live => ⟨fun running => ?_, fun idle => ?_⟩⟩
  · exact Graph.releases_of_verdict built.keyed live (Graph.archive_of_live live)
  · rw [Session.call, Command.perform, Op.run_map, Op.run_archive, Op.run_retire_running live running]
    rfl
  · rw [Session.call, Command.perform, Op.run_map]
    exact (Op.archive_releases (run.built opened).keyed live idle).map _

/-- `app` waits for `lib`, which runs. -/
def leaningCalls : List Command :=
  [.addUnit ⟨"lib", .core, .pending, 0, 1000, ∅, 0, false⟩,
    .addUnit ⟨"app", .core, .pending, 0, 1000, .ofList ["lib"], 0, false⟩,
    .requestLaunch "lib" ⟨"build", 1000⟩ 3]

theorem archive_exact_leaning : ∃ t : Session Vault, Run fresh (fresh.callsOf leaningCalls) t ∧
    (¬∃ a, t.scheduler.graph.archive "lib" = .ok a) ∧
    (t.call (.archive "lib")).answer = .error (.unitInUse "lib" .running) ∧
    ∃ a, (t.call (.archive "app")).answer = .ok a := by
  have run := run_callAll fresh leaningCalls
  have lib : (fresh.callAll leaningCalls).scheduler.graph.unit? "lib" =
      some ⟨"lib", .core, .running, 3, 1000, ∅, 0, false⟩ := by decide +kernel
  have app : (fresh.callAll leaningCalls).scheduler.graph.unit? "app" =
      some ⟨"app", .core, .pending, 0, 1000, .ofList ["lib"], 0, false⟩ := by decide +kernel
  have built := run.built opened_fresh
  refine ⟨_, run, ?_, ?_, ?_⟩
  · rw [((run.archive_exact opened_fresh built "lib").1 _ lib).accepted]
    exact fun free => free.1 "app" (by decide) (Graph.dependsOn_iff.2 ⟨_, app, by decide⟩)
  · exact ((run.archive_exact opened_fresh built "lib").2 _ lib).1 rfl
  · refine (((run.archive_exact opened_fresh built "app").2 _ app).2 (by decide)).accepted.2 ?_
    exact (Graph.dependentsOf_eq_nil_iff built.keyed app).1 (by decide +kernel)

/-- `lib` comes to depend on itself. -/
def loopedCalls : List Command :=
  [.addUnit ⟨"lib", .core, .pending, 0, 1000, ∅, 0, false⟩, .addEdge "lib" "lib"]

/-- A unit that depends on itself cannot be taken out, although no other unit depends on it. -/
theorem self_dependent_stays : ∃ t : Session Vault, Run fresh (fresh.callsOf loopedCalls) t ∧
    (t.scheduler.graph.unit? "lib").map (·.status) = some .pending ∧
    (∀ k ≠ "lib", ¬t.scheduler.graph.DependsOn k "lib") ∧
    (t.scheduler.graph.archive "lib").map (·.1) =
      .error (.unitInUse "lib" (.requiredBy ["lib"])) ∧
    ((Op.archive "lib").run t).1 = .error (.unitInUse "lib" (.requiredBy ["lib"])) := by
  have run := run_callAll fresh loopedCalls
  have alone : (fresh.callAll loopedCalls).scheduler.graph.dependentsOf "lib" = ["lib"] := by
    decide +kernel
  refine ⟨_, run, by decide +kernel, fun k other needs => ?_, by decide +kernel, by decide +kernel⟩
  have named := (Graph.mem_dependentsOf (run.built opened_fresh).keyed).2 needs
  rw [alone] at named
  exact other (List.mem_singleton.1 named)

end Session

end BuildAdmission
