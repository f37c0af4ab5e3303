import BuildAdmission.Proofs.Graph.Search
import BuildAdmission.Proofs.Graph.Split

namespace BuildAdmission.Graph

open Relation

variable {g result : Graph} {p : SplitPlan} {ids : List UnitId} {n x y u : UnitId}

/-- A dependency between two units that a split leaves in place. -/
def DependsBeside (g : Graph) (whole x y : UnitId) : Prop :=
  g.DependsOn x y ∧ x ≠ whole ∧ y ≠ whole

theorem dependsOn_split (h : g.split p = .ok (ids, result)) (hxy : g.DependsBeside p.whole x y) :
    result.DependsOn x y := by
  obtain ⟨hstep, hx, hy⟩ := hxy
  obtain ⟨v, live, hdep⟩ := dependsOn_iff.1 hstep
  rw [dependsOn_iff, unit?_split h (not_mem_partIds_of_live h live), if_neg hx, live]
  split
  · exact ⟨_, rfl, IdSet.mem_union.2 (.inl (IdSet.mem_erase.2 ⟨hdep, hy⟩))⟩
  · exact ⟨v, rfl, hdep⟩

theorem dependsOn_of_split (h : g.split p = .ok (ids, result)) (hx : x ∉ p.partIds)
    (hy : y ∉ p.partIds) (hstep : result.DependsOn x y) : g.DependsOn x y ∧ x ≠ p.whole := by
  obtain ⟨v, live, hdep⟩ := dependsOn_iff.1 hstep
  rw [unit?_split h hx] at live
  split at live
  · cases live
  · next hwhole =>
    refine ⟨dependsOn_iff.2 ?_, hwhole⟩
    split at live
    · obtain ⟨w, hw, rfl⟩ := Option.map_eq_some_iff.1 live
      refine ⟨w, hw, ?_⟩
      rcases IdSet.mem_union.1 hdep with hdep | htarget
      · exact (IdSet.mem_erase.1 hdep).1
      · exact absurd (targets_subset h htarget) hy
    · exact ⟨v, live, hdep⟩

theorem ne_whole_of_onCycle (h : g.split p = .ok (ids, result)) (hx : result.OnCycle x) :
    x ≠ p.whole := by
  rintro rfl
  obtain ⟨whole, live, _⟩ := split_eq_ok h
  obtain ⟨v, hv⟩ := contains_iff.1 (contains_of_onCycle hx)
  rw [unit?_split h (not_mem_partIds_of_live h live), if_pos rfl] at hv
  cases hv

theorem not_mem_partIds_of_reported (h : g.split p = .ok (ids, result)) {c : List UnitId}
    (hc : c ∈ result.detectCycles) (hx : x ∈ c) : x ∉ p.partIds := by
  obtain ⟨_, _, _, _, tangle, _, _⟩ := split_eq_ok h
  exact (newTangle?_eq_none_iff.1 tangle).1 c hc x hx

theorem tangled_of_onCycle_split (h : g.split p = .ok (ids, result)) (hx : result.OnCycle x) :
    ∃ u, TransGen (g.DependsBeside p.whole) u u ∧ result.Tangled x u := by
  obtain ⟨c, hc, u, hu, htangled⟩ := (detectCycles_spec result).2 x hx
  have cyclic := (detectCycles_spec result).1 c hc
  -- The split was accepted with no part on that cycle, so its dependencies are old ones.
  have old (y z : UnitId) (hy : y ∈ c) (hz : z ∈ c) (hstep : result.DependsOn y z) :
      g.DependsBeside p.whole y z := by
    obtain ⟨hyz, hwhole⟩ := dependsOn_of_split h (not_mem_partIds_of_reported h hc hy)
      (not_mem_partIds_of_reported h hc hz) hstep
    exact ⟨hyz, hwhole, ne_whole_of_onCycle h (cyclic.onCycle hz)⟩
  obtain ⟨chain, v, vs, rfl⟩ := cyclic
  obtain ⟨hvu, huv⟩ := transGen_of_mem_closed (chain.imp_of_mem_imp old) hu
  exact ⟨u, huv.trans hvu, htangled⟩

/-- If every cycle of a graph goes through the whole then an accepted split leaves none. -/
theorem not_onCycle_split (h : g.split p = .ok (ids, result))
    (acyclic : ∀ u, ¬ TransGen (g.DependsBeside p.whole) u u) (x : UnitId) : ¬ result.OnCycle x := by
  intro hx
  obtain ⟨u, hu, _⟩ := tangled_of_onCycle_split h hx
  exact acyclic u hu

/-- A unit, a part or not, is on a cycle after an accepted split exactly if it is then tangled with a
unit that was on a cycle before, one that does not go through the whole. -/
theorem onCycle_split_iff (h : g.split p = .ok (ids, result)) (x : UnitId) :
    result.OnCycle x ↔ ∃ u, TransGen (g.DependsBeside p.whole) u u ∧ result.Tangled x u := by
  constructor
  · exact tangled_of_onCycle_split h
  · rintro ⟨u, hcycle, htangled⟩
    have later : result.OnCycle u := TransGen.mono (fun _ _ => dependsOn_split h) _ _ hcycle
    exact later.of_tangled htangled

/-- Two units that depend on each other, and a third between them. -/
def trio : List WorkUnit :=
  [⟨"a", .core, .pending, 0, 1, .ofList ["b", "o"], 0, false⟩,
    ⟨"b", .core, .pending, 0, 1, .ofList ["a"], 0, false⟩,
    ⟨"o", .core, .pending, 0, 1, .ofList ["b"], 0, false⟩]

def trioPlan : SplitPlan := ⟨"o", [⟨"n", .core, .pending, 0, 1, ∅, 0, false⟩], ∅⟩

theorem onCycle_split_trio : ∃ g result, ofRecords trio = .ok g ∧
    g.split trioPlan = .ok (["n"], result) ∧
      (result.OnCycle "n" ↔
        ∃ u, TransGen (g.DependsBeside trioPlan.whole) u u ∧ result.Tangled "n" u) :=
  ⟨_, _, rfl, rfl, onCycle_split_iff rfl "n"⟩

theorem onCycle_part_trio : ∃ g result, ofRecords trio = .ok g ∧
    g.split trioPlan = .ok (["n"], result) ∧ result.OnCycle "n" := by
  -- The search is done with `b` before it comes to `n`, and reports no cycle through `n`.
  refine ⟨_, _, rfl, rfl, ?_⟩
  exact .tail (b := "a") (.tail (b := "b") (.single (by unfold DependsOn; decide +kernel))
    (by unfold DependsOn; decide +kernel)) (by unfold DependsOn; decide +kernel)

end BuildAdmission.Graph
