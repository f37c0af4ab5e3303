import BuildAdmission.Proofs.Graph.Greedy
import BuildAdmission.Proofs.Graph.Search
import Mathlib.Data.Set.Finite.Basic

namespace BuildAdmission.Graph

open Relation

variable {g : Graph} {s : Placement} {u v : WorkUnit} {id x y : UnitId} {ids order : List UnitId}

/-! ### What the search for the order knows -/

/-- The books that the search keeps are right. -/
structure Placement.Sound (g : Graph) (s : Placement) : Prop where
  greedy : g.Greedy s.placed
  indegrees : ∀ id u, g.unit? id = some u → s.indegrees.find? id = some (u.awaited s.placed)
  ready : ∀ u, u ∈ s.ready ↔ g.IsReady s.placed u
  sorted : s.ready.Pairwise (·.before · = true)

theorem indegree_eq (hg : g.Closed) (live : g.unit? id = some u) :
    g.indegree u = u.awaited [] := by
  rw [indegree, WorkUnit.awaited]
  congr 1
  apply List.filter_congr
  intro d hd
  have hlive := contains_iff.2 (closed_iff.1 hg id u live d hd)
  simp [hlive]

theorem startPlacement_sound (hk : g.Keyed) (hg : g.Closed) : g.startPlacement.Sound g := by
  constructor
  · exact greedy_nil
  · intro id u live
    rw [startPlacement, IdMap.find?_mapValues, ← indegree_eq hg live]
    exact congrArg (Option.map _) live
  · intro u
    rw [startPlacement, WorkUnit.mem_sortByPriority, List.mem_filter, mem_live_values,
      decide_eq_true_eq]
    constructor
    · rintro ⟨⟨id, live⟩, hzero⟩
      rw [indegree_eq hg live, WorkUnit.awaited_eq_zero_iff] at hzero
      exact ⟨(hk.live id u live).symm ▸ live, List.not_mem_nil, hzero⟩
    · intro ready
      refine ⟨⟨u.id, ready.live⟩, ?_⟩
      rw [indegree_eq hg ready.live, WorkUnit.awaited_eq_zero_iff]
      exact ready.met
  · apply WorkUnit.pairwise_sortByPriority
    exact hk.pairwise_values.filter _

theorem placed_release (ids : List UnitId) : (ids.foldl g.release s).placed = s.placed := by
  induction ids generalizing s with
  | nil => rfl
  | cons id ids ih => exact ih

theorem find?_release (hn : ids.Nodup) :
    (ids.foldl g.release s).indegrees.find? id =
      if id ∈ ids then (s.indegrees.find? id).map (· - 1) else s.indegrees.find? id := by
  induction ids generalizing s with
  | nil => rfl
  | cons c ids ih =>
      obtain ⟨hc, hn⟩ := List.nodup_cons.1 hn
      rw [List.foldl_cons, ih hn, release, IdMap.find?_modify]
      by_cases hid : id = c
      · subst hid
        simp [hc]
      · simp [hid]

theorem mem_ready_release_one :
    u ∈ (g.release s id).ready ↔
      u ∈ s.ready ∨ g.unit? id = some u ∧ (s.indegrees.find? id).map (· - 1) = some 0 := by
  rw [release, IdMap.find?_modify, if_pos rfl]
  by_cases hzero : (s.indegrees.find? id).map (· - 1) = some 0
  · cases hlive : g.unit? id with
    | none => simp
    | some v =>
        simp only [hzero, if_true, Option.elim_some, WorkUnit.mem_insertByPriority,
          Option.some.injEq, and_true]
        rw [or_comm, eq_comm]
  · simp [hzero]

theorem mem_ready_release (hn : ids.Nodup) :
    u ∈ (ids.foldl g.release s).ready ↔ u ∈ s.ready ∨
      ∃ c ∈ ids, g.unit? c = some u ∧ (s.indegrees.find? c).map (· - 1) = some 0 := by
  induction ids generalizing s with
  | nil => simp
  | cons c ids ih =>
      obtain ⟨hc, hn⟩ := List.nodup_cons.1 hn
      -- The release of the first leaves the counts of the others as they are.
      have other : ∀ d ∈ ids, (g.release s c).indegrees.find? d = s.indegrees.find? d := by
        intro d hd
        have hne : d ≠ c := ne_of_mem_of_not_mem hd hc
        rw [release, IdMap.find?_modify, if_neg hne]
      rw [List.foldl_cons, ih hn, mem_ready_release_one, or_assoc]
      refine or_congr_right ?_
      constructor
      · rintro (h | ⟨d, hd, live, hzero⟩)
        · exact ⟨c, List.mem_cons_self, h⟩
        · rw [other d hd] at hzero
          exact ⟨d, List.mem_cons_of_mem _ hd, live, hzero⟩
      · rintro ⟨d, hd, live, hzero⟩
        rcases List.mem_cons.1 hd with rfl | hd
        · exact .inl ⟨live, hzero⟩
        · rw [← other d hd] at hzero
          exact .inr ⟨d, hd, live, hzero⟩

theorem sorted_release (hk : g.Keyed) (hn : ids.Nodup)
    (sorted : s.ready.Pairwise (·.before · = true)) (waiting : ∀ v ∈ s.ready, v.id ∉ ids) :
    (ids.foldl g.release s).ready.Pairwise (·.before · = true) := by
  induction ids generalizing s with
  | nil => exact sorted
  | cons c ids ih =>
      obtain ⟨hc, hn⟩ := List.nodup_cons.1 hn
      apply ih hn
      · rw [release]
        split
        · cases hlive : g.unit? c with
          | none => exact sorted
          | some v =>
              apply WorkUnit.pairwise_insertByPriority sorted
              intro w hw he
              rw [hk.live c v hlive] at he
              exact waiting w hw (he ▸ List.mem_cons_self)
        · exact sorted
      · intro v hv
        rcases mem_ready_release_one.1 hv with hv | ⟨live, _⟩
        · exact fun hmem => waiting v hv (List.mem_cons_of_mem _ hmem)
        · rw [hk.live c v live]
          exact hc

/-! ### One unit more -/

section

variable {rest : List WorkUnit}

theorem placed_place (g : Graph) (s : Placement) (x : UnitId) :
    (g.place s x).placed = s.placed ++ [x] :=
  placed_release _

theorem mem_dependentsOf_of_live (hk : g.Keyed) (live : g.unit? id = some u) :
    id ∈ g.dependentsOf x ↔ x ∈ u.dependencies := by
  rw [mem_dependentsOf hk, dependsOn_iff, live]
  simp

theorem find?_place (hk : g.Keyed) (live : g.unit? id = some u) :
    (g.place s x).indegrees.find? id =
      if x ∈ u.dependencies then (s.indegrees.find? id).map (· - 1)
      else s.indegrees.find? id := by
  rw [place, find?_release (hk.nodup_dependentsOf x)]
  simp only [mem_dependentsOf_of_live hk live]

theorem mem_ready_place (hk : g.Keyed) :
    u ∈ (g.place s x).ready ↔ u ∈ s.ready ∨
      x ∈ u.dependencies ∧ g.unit? u.id = some u ∧
        (s.indegrees.find? u.id).map (· - 1) = some 0 := by
  rw [place, mem_ready_release (hk.nodup_dependentsOf x)]
  refine or_congr_right ?_
  constructor
  · rintro ⟨c, hc, live, hzero⟩
    obtain rfl := hk.live c u live
    exact ⟨(mem_dependentsOf_of_live hk live).1 hc, live, hzero⟩
  · rintro ⟨hdep, live, hzero⟩
    exact ⟨u.id, (mem_dependentsOf_of_live hk live).2 hdep, live, hzero⟩

theorem Placement.Sound.isNext (h : s.Sound g) (first : s.ready = u :: rest) :
    g.IsNext s.placed u.id := by
  have sorted := h.sorted
  rw [first, List.pairwise_cons] at sorted
  refine ⟨u, (h.ready u).1 (first ▸ List.mem_cons_self), rfl, ?_⟩
  intro v ready hne
  have hv : v ∈ u :: rest := first ▸ (h.ready v).2 ready
  exact sorted.1 v ((List.mem_cons.1 hv).resolve_left hne)

theorem Placement.Sound.place (hk : g.Keyed) (h : s.Sound g) (first : s.ready = u :: rest) :
    (g.place { s with ready := rest } u.id).Sound g := by
  have ready : g.IsReady s.placed u := (h.ready u).1 (first ▸ List.mem_cons_self)
  have sorted := h.sorted
  rw [first, List.pairwise_cons] at sorted
  have mem_rest (v : WorkUnit) : v ∈ rest ↔ v ≠ u ∧ v ∈ s.ready := by
    rw [first, List.mem_cons]
    constructor
    · intro hv
      refine ⟨?_, .inr hv⟩
      rintro rfl
      exact WorkUnit.before_irrefl v (sorted.1 v hv)
    · rintro ⟨hne, hv⟩
      exact hv.resolve_left hne
  constructor
  · rw [placed_place]
    exact Greedy.snoc_iff.2 ⟨h.greedy, h.isNext first⟩
  · intro id v live
    rw [placed_place, find?_place hk live, h.indegrees id v live]
    split
    · next hdep => exact congrArg some (WorkUnit.awaited_snoc hdep ready.left).symm
    · next hdep => exact congrArg some (WorkUnit.awaited_snoc_of_not_mem hdep).symm
  · intro v
    rw [placed_place, mem_ready_place hk, h.greedy.isReady_snoc_iff ready]
    refine or_congr ((mem_rest v).trans (and_congr_right fun _ => h.ready v)) ?_
    refine and_congr_right fun _ => and_congr_right fun live => ?_
    rw [h.indegrees v.id v live, Option.map_some, Option.some.injEq]
  · apply sorted_release hk (hk.nodup_dependentsOf u.id) sorted.2
    -- A unit that is ready does not depend on one that was not placed.
    intro v hv hmem
    have old := (h.ready v).1 ((mem_rest v).1 hv).2
    exact ready.left (old.met u.id ((mem_dependentsOf_of_live hk old.live).1 hmem))

end

theorem placeReady_spec (hk : g.Keyed) {fuel : Nat} (h : s.Sound g)
    (enough : g.live.size ≤ s.placed.length + fuel) :
    g.Greedy (g.placeReady fuel s) ∧ ∀ u, ¬ g.IsReady (g.placeReady fuel s) u := by
  induction fuel generalizing s with
  | zero =>
      refine ⟨h.greedy, ?_⟩
      intro u ready
      -- One more unit would be more than there are.
      cases first : s.ready with
      | nil =>
          have := (h.ready u).2 ready
          rw [first] at this
          cases this
      | cons v rest =>
          have := (Greedy.snoc_iff.2 ⟨h.greedy, h.isNext first⟩).length_le
          simp only [List.length_append, List.length_singleton] at this
          omega
  | succ fuel ih =>
      rw [placeReady]
      split
      · next first =>
        refine ⟨h.greedy, ?_⟩
        intro u ready
        have := (h.ready u).2 ready
        rw [first] at this
        cases this
      · next v rest first =>
        apply ih (h.place hk first)
        rw [placed_place, List.length_append, List.length_singleton]
        calc g.live.size
          _ ≤ s.placed.length + (fuel + 1) := enough
          _ = s.placed.length + 1 + fuel := by omega

/-! ### Cycles -/

theorem wellFounded_of_acyclic (acyclic : ∀ x, ¬ g.OnCycle x) :
    WellFounded fun y x : { x // x ∈ g.live.keys } => TransGen g.DependsOn x y := by
  have : Std.Irrefl fun y x : { x // x ∈ g.live.keys } => TransGen g.DependsOn x y :=
    ⟨fun x => acyclic x⟩
  have : IsTrans _ fun y x : { x // x ∈ g.live.keys } => TransGen g.DependsOn x y :=
    ⟨fun _ _ _ hyx hzy => hzy.trans hyx⟩
  exact Finite.wellFounded_of_trans_of_irrefl _

/-- Where no unit is on a cycle, an order that leaves no unit ready leaves none out. -/
theorem mem_of_acyclic (hk : g.Keyed) (hg : g.Closed) (acyclic : ∀ x, ¬ g.OnCycle x)
    (done : ∀ u, ¬ g.IsReady order u) (hx : x ∈ g.live.keys) : x ∈ order := by
  have all (x : { x // x ∈ g.live.keys }) : x.1 ∈ order := by
    induction x using (wellFounded_of_acyclic acyclic).induction with
    | _ x ih =>
        obtain ⟨u, live⟩ := IdMap.mem_keys_iff.1 x.2
        by_contra left
        refine done u ⟨(hk.live x u live).symm ▸ live, (hk.live x u live).symm ▸ left, ?_⟩
        intro d hd
        have hstep : g.DependsOn x d := dependsOn_iff.2 ⟨u, live, hd⟩
        exact ih ⟨d, IdMap.mem_keys_iff.2 (hg x d hstep)⟩ (.single hstep)
  exact all ⟨x, hx⟩

theorem GreedyOrder.acyclic (h : g.GreedyOrder order) (x : UnitId) : ¬ g.OnCycle x := by
  have down {y : UnitId} (hx : x ∈ order) (hxy : TransGen g.DependsOn x y) :
      y ∈ order ∧ order.idxOf y < order.idxOf x := by
    induction hxy with
    | single hxy => exact ⟨h.greedy.closed hx hxy, h.greedy.idxOf_lt hx hxy⟩
    | tail _ hyz ih =>
        obtain ⟨hy, hlt⟩ := ih
        exact ⟨h.greedy.closed hy hyz, (h.greedy.idxOf_lt hy hyz).trans hlt⟩
  intro hcycle
  have live : x ∈ g.live.keys := IdMap.mem_keys_iff.2 (contains_iff.1 (contains_of_onCycle hcycle))
  exact lt_irrefl _ (down (h.perm.mem_iff.2 live) hcycle).2

theorem detectCycles_eq_nil_iff : g.detectCycles = [] ↔ ∀ x, ¬ g.OnCycle x := by
  obtain ⟨cyclic, complete⟩ := detectCycles_spec g
  constructor
  · intro hnil x hx
    obtain ⟨c, hc, _⟩ := complete x hx
    rw [hnil] at hc
    cases hc
  · intro acyclic
    apply List.eq_nil_iff_forall_not_mem.2
    intro c hc
    have hcycle := cyclic c hc
    obtain ⟨_, x, xs, rfl⟩ := id hcycle
    exact acyclic x (hcycle.onCycle List.mem_cons_self)

theorem buildOrder_cases (hk : g.Keyed) (hg : g.Closed) :
    (∃ order, g.buildOrder = .ok order ∧ g.GreedyOrder order) ∨
      g.buildOrder = .error (.cycleDetected g.detectCycles) ∧ ∃ x, g.OnCycle x := by
  have enough : g.live.size ≤ g.startPlacement.placed.length + g.live.size := Nat.le_add_left ..
  obtain ⟨greedy, done⟩ := placeReady_spec hk (startPlacement_sound hk hg) enough
  have within : ∀ x ∈ g.placeReady g.live.size g.startPlacement, x ∈ g.live.keys :=
    fun x hx => IdMap.mem_keys_iff.2 (greedy.live hx)
  by_cases short : (g.placeReady g.live.size g.startPlacement).length < g.live.size
  · refine .inr ⟨if_pos short, ?_⟩
    by_contra acyclic
    have all : g.live.keys ⊆ g.placeReady g.live.size g.startPlacement :=
      fun x hx => mem_of_acyclic hk hg (not_exists.1 acyclic) done hx
    have := (List.subperm_of_subset g.live.nodup_keys all).length_le
    rw [IdMap.length_keys] at this
    omega
  · refine .inl ⟨_, if_neg short, ?_, greedy⟩
    apply (List.subperm_of_subset greedy.nodup within).perm_of_length_le
    rw [IdMap.length_keys]
    omega

theorem validate_eq_ok_iff :
    g.validate = .ok () ↔ g.detectCycles = [] ∧ g.levelViolations = [] := by
  unfold validate
  cases hcycles : g.detectCycles with
  | cons c cs => simp
  | nil => cases hlevels : g.levelViolations <;> simp

/-- The build order is the greedy order, and there is one exactly if no unit is on a cycle. -/
theorem Built.buildOrder_spec (h : g.Built) :
    ((∃ order, g.buildOrder = .ok order) ↔ ∀ x, ¬ g.OnCycle x) ∧
      ((∀ x, ¬ g.OnCycle x) ↔ g.detectCycles = []) ∧
      (∀ order, g.buildOrder = .ok order ↔ g.GreedyOrder order) ∧
      (∀ order, g.buildOrder = .ok order → ∀ x y, g.DependsOn x y →
        y ∈ order ∧ x ∈ order ∧ order.idxOf y < order.idxOf x) ∧
      (∀ e, g.buildOrder = .error e →
        e = .cycleDetected g.detectCycles ∧ g.detectCycles ≠ []) ∧
      (g.validate = .ok () ↔
        (∃ order, g.buildOrder = .ok order) ∧ g.levelViolations = []) := by
  have acyclic_iff := detectCycles_eq_nil_iff (g := g)
  have greedy_of_ok {order : List UnitId} (hok : g.buildOrder = .ok order) :
      g.GreedyOrder order := by
    rcases buildOrder_cases h.keyed h.closed with ⟨order', hok', greedy⟩ | ⟨herr, _⟩
    · cases hok.symm.trans hok'
      exact greedy
    · cases hok.symm.trans herr
  have ok_iff : (∃ order, g.buildOrder = .ok order) ↔ ∀ x, ¬ g.OnCycle x := by
    constructor
    · rintro ⟨order, hok⟩
      exact (greedy_of_ok hok).acyclic
    · intro acyclic
      rcases buildOrder_cases h.keyed h.closed with ⟨order, hok, _⟩ | ⟨_, x, hx⟩
      · exact ⟨order, hok⟩
      · exact absurd hx (acyclic x)
  refine ⟨ok_iff, acyclic_iff.symm, ?_, ?_, ?_, ?_⟩
  · intro order
    refine ⟨greedy_of_ok, fun greedy => ?_⟩
    obtain ⟨order', hok⟩ := ok_iff.2 greedy.acyclic
    rw [hok, (greedy_of_ok hok).unique greedy]
  · intro order hok x y hxy
    have greedy := greedy_of_ok hok
    have hx : x ∈ order := by
      rw [greedy.perm.mem_iff, IdMap.mem_keys_iff]
      exact contains_iff.1 (contains_of_dependsOn hxy)
    exact ⟨greedy.greedy.closed hx hxy, hx, greedy.greedy.idxOf_lt hx hxy⟩
  · intro e herr
    rcases buildOrder_cases h.keyed h.closed with ⟨order, hok, _⟩ | ⟨herr', x, hx⟩
    · cases hok.symm.trans herr
    · cases herr.symm.trans herr'
      exact ⟨rfl, fun hnil => acyclic_iff.1 hnil x hx⟩
  · rw [validate_eq_ok_iff, acyclic_iff, ok_iff]

/-- Two units that are ready at once, and one that waits for both. -/
def fork : List WorkUnit :=
  [⟨"app", .core, .pending, -5, 1, .ofList ["lib", "net"], 0, false⟩,
    ⟨"lib", .base, .pending, 3, 1, ∅, 0, false⟩,
    ⟨"net", .base, .pending, 2, 1, ∅, 0, false⟩]

theorem buildOrder_fork : ∃ g, ofRecords fork = .ok g ∧
    g.buildOrder = .ok ["net", "lib", "app"] ∧ g.GreedyOrder ["net", "lib", "app"] := by
  obtain ⟨g, read⟩ : ∃ g, ofRecords fork = .ok g := ⟨_, rfl⟩
  have ok : g.buildOrder = .ok ["net", "lib", "app"] := by
    cases read
    decide +kernel
  exact ⟨g, read, ok, ((Built.buildOrder_spec (.read read)).2.2.1 _).1 ok⟩

end BuildAdmission.Graph
