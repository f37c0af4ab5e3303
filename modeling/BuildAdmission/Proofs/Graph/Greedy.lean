import BuildAdmission.Proofs.Graph.Built
import BuildAdmission.Proofs.WorkUnit
import Mathlib.Data.List.Perm.Subperm

namespace BuildAdmission.Graph

variable {g : Graph} {u v : WorkUnit} {x y : UnitId} {placed order order' : List UnitId}

/-- A live unit that is not placed yet and waits for no dependency. -/
structure IsReady (g : Graph) (placed : List UnitId) (u : WorkUnit) : Prop where
  live : g.unit? u.id = some u
  left : u.id ∉ placed
  met : ∀ d ∈ u.dependencies, d ∈ placed

/-- Of the units that are ready the one that goes first. -/
def IsNext (g : Graph) (placed : List UnitId) (id : UnitId) : Prop :=
  ∃ u, g.IsReady placed u ∧ u.id = id ∧ ∀ v, g.IsReady placed v → v ≠ u → u.before v = true

/-- Each unit is the next one after those that stand before it. -/
def Greedy (g : Graph) (order : List UnitId) : Prop :=
  ∀ l x r, order = l ++ x :: r → g.IsNext l x

/-- All live units, placed greedily. -/
structure GreedyOrder (g : Graph) (order : List UnitId) : Prop where
  perm : order.Perm g.live.keys
  greedy : g.Greedy order

theorem IsNext.unique (hx : g.IsNext placed x) (hy : g.IsNext placed y) : x = y := by
  obtain ⟨u, hu, rfl, first⟩ := hx
  obtain ⟨v, hv, rfl, first'⟩ := hy
  by_contra hne
  have huv : v ≠ u := fun he => hne (congrArg WorkUnit.id he.symm)
  exact WorkUnit.before_asymm (first v hv huv) (first' u hu huv.symm)

theorem Greedy.snoc_iff : g.Greedy (order ++ [x]) ↔ g.Greedy order ∧ g.IsNext order x := by
  constructor
  · intro h
    refine ⟨?_, h order x [] rfl⟩
    rintro l y r rfl
    exact h l y (r ++ [x]) (by simp)
  · rintro ⟨h, next⟩ l y r he
    rcases List.eq_nil_or_concat r with rfl | ⟨r, z, rfl⟩
    · obtain ⟨rfl, hx⟩ := List.append_inj' he rfl
      cases hx
      exact next
    · have he : order ++ [x] = (l ++ y :: r) ++ [z] := by simpa using he
      exact h l y r (List.append_inj_left' he rfl)

theorem greedy_nil : g.Greedy [] := by
  intro l x r h
  simp at h

theorem Greedy.live (h : g.Greedy order) (hx : x ∈ order) : ∃ u, g.unit? x = some u := by
  obtain ⟨l, r, rfl⟩ := List.append_of_mem hx
  obtain ⟨u, ready, rfl, _⟩ := h l x r rfl
  exact ⟨u, ready.live⟩

theorem Greedy.nodup (h : g.Greedy order) : order.Nodup := by
  induction order using List.reverseRecOn with
  | nil => exact .nil
  | append_singleton order x ih =>
      obtain ⟨init, u, ready, rfl, _⟩ := Greedy.snoc_iff.1 h
      rw [← List.concat_eq_append]
      exact (ih init).concat ready.left

theorem Greedy.met (h : g.Greedy order) {l r : List UnitId} (he : order = l ++ x :: r)
    (hxy : g.DependsOn x y) : y ∈ l := by
  obtain ⟨u, ready, rfl, _⟩ := h l x r he
  obtain ⟨v, live, hy⟩ := dependsOn_iff.1 hxy
  rw [ready.live] at live
  cases live
  exact ready.met y hy

theorem Greedy.closed (h : g.Greedy order) (hx : x ∈ order) (hxy : g.DependsOn x y) :
    y ∈ order := by
  obtain ⟨l, r, he⟩ := List.append_of_mem hx
  rw [he]
  exact List.mem_append_left _ (h.met he hxy)

theorem Greedy.idxOf_lt (h : g.Greedy order) (hx : x ∈ order) (hxy : g.DependsOn x y) :
    order.idxOf y < order.idxOf x := by
  obtain ⟨l, r, rfl⟩ := List.append_of_mem hx
  have hy : y ∈ l := h.met rfl hxy
  have hxl : x ∉ l := fun hmem => List.disjoint_of_nodup_append h.nodup hmem List.mem_cons_self
  rw [List.idxOf_append_of_mem hy, List.idxOf_append_of_notMem hxl, List.idxOf_cons_self]
  exact List.idxOf_lt_length_of_mem hy

theorem Greedy.length_le (h : g.Greedy order) : order.length ≤ g.live.size := by
  rw [← IdMap.length_keys]
  refine (List.subperm_of_subset h.nodup ?_).length_le
  intro x hx
  exact IdMap.mem_keys_iff.2 (h.live hx)

/-- Once a unit that was ready is placed, the others stay ready, and those get ready that waited for
nothing else. -/
theorem Greedy.isReady_snoc_iff (h : g.Greedy placed) (ready : g.IsReady placed u) :
    g.IsReady (placed ++ [u.id]) v ↔ v ≠ u ∧ g.IsReady placed v ∨
      u.id ∈ v.dependencies ∧ g.unit? v.id = some v ∧ v.awaited placed - 1 = 0 := by
  constructor
  · intro new
    have left : v.id ∉ placed ∧ v.id ≠ u.id := by simpa using new.left
    by_cases hdep : u.id ∈ v.dependencies
    · refine .inr ⟨hdep, new.live, ?_⟩
      rw [← WorkUnit.awaited_snoc hdep ready.left, WorkUnit.awaited_eq_zero_iff]
      exact new.met
    · refine .inl ⟨fun he => left.2 (congrArg WorkUnit.id he), new.live, left.1, ?_⟩
      intro d hd
      have hne : d ≠ u.id := ne_of_mem_of_not_mem hd hdep
      exact (List.mem_append.1 (new.met d hd)).resolve_right (by simpa using hne)
  · rintro (⟨hne, old⟩ | ⟨hdep, live, hzero⟩)
    · refine ⟨old.live, ?_, fun d hd => List.mem_append_left _ (old.met d hd)⟩
      intro hplaced
      rcases List.mem_append.1 hplaced with hplaced | he
      · exact old.left hplaced
      · have live := old.live
        rw [List.mem_singleton.1 he, ready.live] at live
        exact hne (Option.some.inj live).symm
    · rw [← WorkUnit.awaited_snoc hdep ready.left, WorkUnit.awaited_eq_zero_iff] at hzero
      refine ⟨live, ?_, hzero⟩
      -- A placed unit has its dependencies placed, and so has the one that is placed now.
      intro hplaced
      rcases List.mem_append.1 hplaced with hplaced | he
      · exact ready.left (h.closed hplaced (dependsOn_iff.2 ⟨v, live, hdep⟩))
      · rw [List.mem_singleton.1 he, ready.live] at live
        cases live
        exact ready.left (ready.met u.id hdep)

theorem Greedy.eq_of_prefix {l r r' : List UnitId} (h : g.Greedy (l ++ r))
    (h' : g.Greedy (l ++ r')) (hlen : r.length = r'.length) : r = r' := by
  induction r generalizing l r' with
  | nil => exact (List.length_eq_zero_iff.1 hlen.symm).symm
  | cons x r ih =>
      cases r' with
      | nil => cases hlen
      | cons y r' =>
          obtain rfl : x = y := (h l x r rfl).unique (h' l y r' rfl)
          have hr : r = r' := by
            apply ih (l := l ++ [x])
            · simpa using h
            · simpa using h'
            · exact Nat.succ.inj hlen
          rw [hr]

theorem GreedyOrder.unique (h : g.GreedyOrder order) (h' : g.GreedyOrder order') :
    order = order' :=
  Greedy.eq_of_prefix (l := []) h.greedy h'.greedy (h.perm.trans h'.perm.symm).length_eq

end BuildAdmission.Graph
