import BuildAdmission.Graph.Cycles
import BuildAdmission.Proofs.Graph.Units
import Mathlib.Data.List.Chain
import Mathlib.Logic.Relation

namespace BuildAdmission.Graph

open Relation

variable {g : Graph} {x y z u v : UnitId} {c : List UnitId}

def DependsOn (g : Graph) (x y : UnitId) : Prop := y ∈ g.dependencies x

/-- A unit that depends on itself, directly or through others. -/
def OnCycle (g : Graph) (x : UnitId) : Prop := TransGen g.DependsOn x x

/-- Two units that depend on each other, directly or through others, or are the same. -/
def Tangled (g : Graph) (x y : UnitId) : Prop :=
  ReflTransGen g.DependsOn x y ∧ ReflTransGen g.DependsOn y x

/-- A path that ends where it begins. -/
def IsCycle (g : Graph) (c : List UnitId) : Prop :=
  c.IsChain g.DependsOn ∧ ∃ x xs, c = x :: (xs ++ [x])

theorem dependsOn_iff : g.DependsOn x y ↔ ∃ u, g.unit? x = some u ∧ y ∈ u.dependencies := by
  unfold DependsOn dependencies
  cases g.unit? x with
  | none => simp
  | some u => simpa using IdSet.mem_toList

theorem contains_iff : g.live.contains x = true ↔ ∃ u, g.unit? x = some u := IdMap.contains_iff

theorem contains_of_dependsOn (h : g.DependsOn x y) : g.live.contains x = true := by
  obtain ⟨u, hu, _⟩ := dependsOn_iff.1 h
  exact contains_iff.2 ⟨u, hu⟩

theorem contains_of_onCycle (h : g.OnCycle x) : g.live.contains x = true := by
  obtain ⟨y, hxy, _⟩ := TransGen.head'_iff.1 h
  exact contains_of_dependsOn hxy

theorem Tangled.refl (x : UnitId) : g.Tangled x x := ⟨.refl, .refl⟩

theorem Tangled.symm (h : g.Tangled x y) : g.Tangled y x := ⟨h.2, h.1⟩

theorem Tangled.trans (h : g.Tangled x y) (h' : g.Tangled y z) : g.Tangled x z :=
  ⟨h.1.trans h'.1, h'.2.trans h.2⟩

theorem OnCycle.of_tangled (h : g.OnCycle x) (hxy : g.Tangled y x) : g.OnCycle y :=
  (TransGen.trans_right hxy.1 h).trans_left hxy.2

/-! ### Cycles as paths -/

section

variable {r : UnitId → UnitId → Prop} {xs : List UnitId}

theorem transGen_of_isChain (h : (x :: (xs ++ [y])).IsChain r) : TransGen r x y := by
  induction xs generalizing x with
  | nil => exact .single (List.isChain_cons_cons.1 h).1
  | cons z xs ih =>
      obtain ⟨hxz, h⟩ := List.isChain_cons_cons.1 h
      exact .head hxz (ih h)

theorem transGen_of_mem_closed (h : (x :: (xs ++ [x])).IsChain r) (hv : v ∈ x :: (xs ++ [x])) :
    TransGen r x v ∧ TransGen r v x := by
  have closed := transGen_of_isChain h
  by_cases hvx : v = x
  · subst hvx
    exact ⟨closed, closed⟩
  · have hv : v ∈ xs := by simpa [hvx] using hv
    obtain ⟨as, bs, rfl⟩ := List.append_of_mem hv
    have hsplit : x :: ((as ++ v :: bs) ++ [x]) = (x :: as) ++ v :: (bs ++ [x]) := by simp
    rw [hsplit, List.isChain_split] at h
    exact ⟨transGen_of_isChain h.1, transGen_of_isChain h.2⟩

end

theorem IsCycle.onCycle (h : g.IsCycle c) (hv : v ∈ c) : g.OnCycle v := by
  obtain ⟨chain, x, xs, rfl⟩ := h
  obtain ⟨hxv, hvx⟩ := transGen_of_mem_closed chain hv
  exact hvx.trans hxv

end BuildAdmission.Graph
