import BuildAdmission.Proofs.Graph.Built
import BuildAdmission.Proofs.Graph.SplitCycles

namespace BuildAdmission

/-- The plan leaves no dependent without a part to depend on. -/
def SplitPlan.Covers (p : SplitPlan) : Prop :=
  ∀ id targets, p.remap.find? id = some targets → ∃ n, n ∈ targets

namespace Graph

open Relation

variable {g result : Graph} {p : SplitPlan} {ids : List UnitId} {n x y x' : UnitId}

/-! ### The dependencies at the parts -/

theorem dependsOn_part (hg : g.Keyed) (h : g.split p = .ok (ids, result))
    (hy : g.DependsOn p.whole y) (hn : n ∈ p.partIds) : result.DependsOn n y := by
  obtain ⟨whole, live, hdep⟩ := dependsOn_iff.1 hy
  obtain ⟨u, _, _, hu⟩ := unit?_split_part hg h live hn
  exact dependsOn_iff.2 ⟨_, hu, IdSet.mem_union.2 (.inr hdep)⟩

theorem dependsOn_target (hg : g.Keyed) (h : g.split p = .ok (ids, result))
    (hx : g.DependsOn x p.whole) (hne : x ≠ p.whole)
    (hn : n ∈ (p.remap.find? x).getD p.partIds) : result.DependsOn x n := by
  obtain ⟨u, live, _⟩ := dependsOn_iff.1 hx
  rw [dependsOn_iff, unit?_split h (not_mem_partIds_of_live h live), if_neg hne,
    if_pos ((mem_dependentsOf hg).2 hx), live]
  exact ⟨_, rfl, IdSet.mem_union.2 (.inr hn)⟩

/-- The parts take on the dependencies of the whole, and the whole goes: a plan for a unit that
depends on itself is refused. -/
theorem not_dependsOn_whole (h : g.split p = .ok (ids, result)) :
    ¬ g.DependsOn p.whole p.whole := by
  intro hself
  obtain ⟨whole, live, names, unknown, _⟩ := split_eq_ok h
  obtain ⟨n, hn⟩ := exists_part names
  obtain ⟨u, _, _, hu⟩ := unit?_withParts_of_mem g whole hn
  have inherited : (g.withParts p whole).DependsOn n p.whole := by
    obtain ⟨w, hw, hdep⟩ := dependsOn_iff.1 hself
    obtain rfl : w = whole := Option.some.inj (hw.symm.trans live)
    exact dependsOn_iff.2 ⟨_, hu, IdSet.mem_union.2 (.inr hdep)⟩
  obtain ⟨v, hv⟩ := unknownPartDependency?_eq_none_iff.1 unknown n hn _ inherited
  rw [unit?_withParts (not_mem_partIds_of_live h live), if_pos rfl] at hv
  cases hv

/-! ### What stands for a unit after a split -/

/-- Each part stands for the whole, and every other unit for itself. -/
inductive StandsFor (p : SplitPlan) : UnitId → UnitId → Prop
  | self {x : UnitId} (hx : x ≠ p.whole) : StandsFor p x x
  | part {n : UnitId} (hn : n ∈ p.partIds) : StandsFor p n p.whole

theorem StandsFor.eq (h : StandsFor p x' x) (hx : x ≠ p.whole) : x' = x := by
  cases h with
  | self => rfl
  | part => exact absurd rfl hx

theorem exists_target (h : g.split p = .ok (ids, result)) (covers : p.Covers) (x : UnitId) :
    ∃ n ∈ p.partIds, n ∈ (p.remap.find? x).getD p.partIds := by
  cases hremap : p.remap.find? x with
  | none =>
      obtain ⟨_, _, names, _⟩ := split_eq_ok h
      obtain ⟨n, hn⟩ := exists_part names
      exact ⟨n, hn, hn⟩
  | some targets =>
      obtain ⟨n, hn⟩ := covers x targets hremap
      have target : n ∈ (p.remap.find? x).getD p.partIds := hremap ▸ hn
      exact ⟨n, targets_subset h target, hn⟩

/-- A dependency is kept between what stands for its two ends. -/
theorem StandsFor.dependsOn (hx : StandsFor p x' x) (hg : g.Keyed)
    (h : g.split p = .ok (ids, result)) (covers : p.Covers) (hxy : g.DependsOn x y) :
    ∃ y', StandsFor p y' y ∧ result.DependsOn x' y' := by
  by_cases hy : y = p.whole
  · subst hy
    cases hx with
    | self hne =>
        obtain ⟨n, hn, target⟩ := exists_target h covers x
        exact ⟨n, .part hn, dependsOn_target hg h hxy hne target⟩
    | part => exact absurd hxy (not_dependsOn_whole h)
  · refine ⟨y, .self hy, ?_⟩
    cases hx with
    | self hne => exact dependsOn_split h ⟨hxy, hne, hy⟩
    | part hn => exact dependsOn_part hg h hxy hn

theorem StandsFor.transGen (hx : StandsFor p x' x) (hg : g.Keyed)
    (h : g.split p = .ok (ids, result)) (covers : p.Covers) (hxy : TransGen g.DependsOn x y) :
    ∃ y', StandsFor p y' y ∧ TransGen result.DependsOn x' y' := by
  induction hxy with
  | single hxy =>
      obtain ⟨y', hy, hstep⟩ := hx.dependsOn hg h covers hxy
      exact ⟨y', hy, .single hstep⟩
  | tail _ hyz ih =>
      obtain ⟨y', hy, hway⟩ := ih
      obtain ⟨z', hz, hstep⟩ := hy.dependsOn hg h covers hyz
      exact ⟨z', hz, hway.tail hstep⟩

/-- A split keeps what the remaining units depend on, and puts parts between the dependents of the
whole and its dependencies. -/
theorem Built.rerouted (built : g.Built) (h : g.split p = .ok (ids, result)) (covers : p.Covers) :
    (∀ x y, x ≠ p.whole → y ≠ p.whole → TransGen g.DependsOn x y →
        TransGen result.DependsOn x y) ∧
      ∀ x y, g.DependsOn x p.whole → g.DependsOn p.whole y →
        ∃ n ∈ p.partIds, result.DependsOn x n ∧ result.DependsOn n y := by
  constructor
  · intro x y hx hy hxy
    obtain ⟨y', stands, hway⟩ := (StandsFor.self hx).transGen built.keyed h covers hxy
    rwa [stands.eq hy] at hway
  · intro x y hx hy
    have hne : x ≠ p.whole := by
      rintro rfl
      exact not_dependsOn_whole h hx
    obtain ⟨n, hn, target⟩ := exists_target h covers x
    exact ⟨n, hn, dependsOn_target built.keyed h hx hne target, dependsOn_part built.keyed h hy hn⟩

/-- Two units that depend on a third, and below it two that depend on each other. -/
def tower : List WorkUnit :=
  [⟨"app", .feature, .pending, 0, 1, .ofList ["lib"], 0, false⟩,
    ⟨"lib", .core, .pending, 0, 1, .ofList ["sys"], 0, false⟩,
    ⟨"net", .base, .pending, 0, 1, .ofList ["sys"], 0, false⟩,
    ⟨"sys", .base, .pending, 0, 1, .ofList ["net"], 0, false⟩,
    ⟨"web", .feature, .pending, 0, 1, .ofList ["lib"], 0, false⟩]

def towerPlan : SplitPlan where
  whole := "lib"
  parts := [⟨"left", .core, .pending, 0, 1, ∅, 0, false⟩,
    ⟨"right", .core, .pending, 0, 1, .ofList ["left"], 0, false⟩]
  remap := .ofList [("app", .ofList ["left"])]

theorem rerouted_tower : ∃ g result, ofRecords tower = .ok g ∧
    g.split towerPlan = .ok (["left", "right"], result) ∧ towerPlan.Covers ∧
      TransGen g.DependsOn "app" "net" ∧ TransGen result.DependsOn "app" "net" ∧
      ∃ n ∈ towerPlan.partIds, result.DependsOn "web" n ∧ result.DependsOn n "sys" := by
  obtain ⟨g, read⟩ : ∃ g, ofRecords tower = .ok g := ⟨_, rfl⟩
  obtain ⟨result, accepted⟩ : ∃ result, g.split towerPlan = .ok (["left", "right"], result) := by
    cases read
    exact ⟨_, rfl⟩
  have covers : towerPlan.Covers := by
    intro id targets hremap
    have entry : (id, targets) ∈ [("app", IdSet.ofList ["left"])] :=
      IdMap.find?_eq_some_iff.1 hremap
    obtain ⟨rfl, rfl⟩ := Prod.mk.inj (List.mem_singleton.1 entry)
    exact ⟨"left", by decide⟩
  have step {x y : UnitId} (h : y ∈ g.dependencies x) : g.DependsOn x y := h
  have app : g.DependsOn "app" "lib" := step (by cases read; decide +kernel)
  have web : g.DependsOn "web" "lib" := step (by cases read; decide +kernel)
  have lib : g.DependsOn "lib" "sys" := step (by cases read; decide +kernel)
  have sys : g.DependsOn "sys" "net" := step (by cases read; decide +kernel)
  have way : TransGen g.DependsOn "app" "net" := .tail (.tail (.single app) lib) sys
  obtain ⟨kept, between⟩ := Built.rerouted (.read read) accepted covers
  exact ⟨g, result, read, accepted, covers, way,
    kept "app" "net" (by decide) (by decide) way, between "web" "sys" web lib⟩

end Graph

end BuildAdmission
