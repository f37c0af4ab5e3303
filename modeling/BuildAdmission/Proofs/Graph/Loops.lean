import BuildAdmission.Proofs.Graph.Order

namespace BuildAdmission.Graph

variable {g : Graph} {path c : List UnitId} {id : UnitId} {s : Search} {fuel : Nat}

/-- A way along dependencies between live units that ends where it begins and comes to no other
unit twice. -/
structure IsLoop (g : Graph) (c : List UnitId) : Prop where
  two_le : 2 ≤ c.length
  closed : c.head? = c.getLast?
  distinct : c.dropLast.Nodup
  edges : c.IsChain fun x y =>
    ∃ u v, g.unit? x = some u ∧ y ∈ u.dependencies ∧ g.unit? y = some v

theorem IsCycle.isLoop (h : g.IsCycle c) (distinct : c.dropLast.Nodup) : g.IsLoop c := by
  have live {y : UnitId} (hy : y ∈ c) : ∃ v, g.unit? y = some v :=
    contains_iff.1 (contains_of_onCycle (h.onCycle hy))
  obtain ⟨chain, x, xs, rfl⟩ := h
  have closed : (x :: (xs ++ [x])).getLast? = some x := by
    rw [← List.cons_append, List.getLast?_concat]
  refine ⟨by simp, closed.symm, distinct, ?_⟩
  refine chain.imp_of_mem_imp ?_
  intro y z _ hz hyz
  obtain ⟨u, hu, hdep⟩ := dependsOn_iff.1 hyz
  obtain ⟨v, hv⟩ := live hz
  exact ⟨u, v, hu, hdep, hv⟩

theorem IsCycle.tangled {u v : UnitId} (h : g.IsCycle c) (hu : u ∈ c) (hv : v ∈ c) :
    g.Tangled u v := by
  obtain ⟨chain, x, xs, rfl⟩ := h
  obtain ⟨hxu, hux⟩ := transGen_of_mem_closed chain hu
  obtain ⟨hxv, hvx⟩ := transGen_of_mem_closed chain hv
  exact ⟨(hux.trans hxv).to_reflTransGen, (hvx.trans hxu).to_reflTransGen⟩

/-! ### No unit twice -/

/-- The cycles that a search has found come to no unit twice before they close. -/
def Search.Simple (s : Search) : Prop := ∀ c ∈ s.cycles, c.dropLast.Nodup

theorem Search.Simple.meet {d : UnitId} (h : s.Simple) (hn : path.Nodup)
    (visit : (path ++ [d]).Nodup → (g.visit fuel path d s).Simple) :
    (g.meet fuel path s d).Simple := by
  unfold Graph.meet
  split
  · intro c hc
    rcases List.mem_append.1 hc with hc | hc
    · exact h c hc
    -- The cycle is the end of the path, from `d` on, and then `d` again.
    · rw [List.mem_singleton.1 hc, List.dropLast_concat]
      exact (List.dropWhile_sublist _).nodup hn
  · next hd =>
    split
    · exact h
    · rw [← List.concat_eq_append] at visit
      exact visit (hn.concat hd)

theorem Search.Simple.visit (h : s.Simple) (hn : (path ++ [id]).Nodup) :
    (g.visit fuel path id s).Simple := by
  induction fuel generalizing path id s with
  | zero => exact h
  | succ fuel ih =>
      rw [visit_succ]
      exact List.foldlRecOn (motive := Search.Simple) _ _ h fun t ht d _ => ht.meet hn (ih ht)

theorem nodup_of_detectCycles (hc : c ∈ g.detectCycles) : c.dropLast.Nodup := by
  have start : Search.Simple ⟨∅, []⟩ := by
    intro c hc
    cases hc
  rw [detectCycles_eq] at hc
  refine List.foldlRecOn (motive := Search.Simple) _ g.searchFrom start ?_ c hc
  intro s hs id _
  unfold searchFrom
  split
  · exact hs
  · exact hs.visit (List.nodup_singleton id)

/-- What the search reports are loops, each tangle that holds a cycle has a loop of its own among
them, and there is none at all only if no unit is on a cycle. -/
theorem detectCycles_loops (g : Graph) :
    (∀ c ∈ g.detectCycles, g.IsLoop c) ∧
      (∀ u, g.OnCycle u → ∃ c ∈ g.detectCycles, ∀ v ∈ c, g.Tangled u v) ∧
      (g.detectCycles = [] ↔ ∀ u, ¬ g.OnCycle u) := by
  obtain ⟨cyclic, complete⟩ := detectCycles_spec g
  refine ⟨?_, ?_, detectCycles_eq_nil_iff⟩
  · intro c hc
    exact (cyclic c hc).isLoop (nodup_of_detectCycles hc)
  · intro u hu
    obtain ⟨c, hc, v, hv, huv⟩ := complete u hu
    exact ⟨c, hc, fun w hw => huv.trans ((cyclic c hc).tangled hv hw)⟩

/-- Two loops that share a unit, a unit that depends on itself, and one that is on no cycle. -/
def knot : List WorkUnit :=
  [⟨"a", .core, .pending, 0, 1, .ofList ["b"], 0, false⟩,
    ⟨"b", .core, .pending, 0, 1, .ofList ["a", "c"], 0, false⟩,
    ⟨"c", .core, .pending, 0, 1, .ofList ["a", "d"], 0, false⟩,
    ⟨"d", .core, .pending, 0, 1, .ofList ["d"], 0, false⟩,
    ⟨"e", .core, .pending, 0, 1, .ofList ["a"], 0, false⟩]

theorem detectCycles_loops_knot : ∃ g, ofRecords knot = .ok g ∧
    g.detectCycles = [["a", "b", "a"], ["a", "b", "c", "a"], ["d", "d"]] ∧
    g.IsLoop ["a", "b", "c", "a"] ∧ g.OnCycle "d" ∧
    ∃ c ∈ g.detectCycles, ∀ v ∈ c, g.Tangled "d" v := by
  obtain ⟨g, read⟩ : ∃ g, ofRecords knot = .ok g := ⟨_, rfl⟩
  have found : g.detectCycles = [["a", "b", "a"], ["a", "b", "c", "a"], ["d", "d"]] := by
    cases read
    decide +kernel
  have hd : g.OnCycle "d" := by
    cases read
    exact .single (by unfold DependsOn; decide +kernel)
  obtain ⟨loops, reported, _⟩ := detectCycles_loops g
  exact ⟨g, read, found, loops _ (by simp [found]), hd, reported "d" hd⟩

end BuildAdmission.Graph
