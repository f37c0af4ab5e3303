import BuildAdmission.IdSet
import Mathlib.Data.List.Dedup

namespace BuildAdmission.IdSet

theorem mem_toList {s : IdSet} {id : UnitId} : id ∈ s.toList ↔ id ∈ s := Iff.rfl

theorem nodup (s : IdSet) : s.toList.Nodup := by
  rw [List.nodup_iff_pairwise_ne]
  refine s.ascending.imp ?_
  intro a b hlt he
  exact String.lt_irrefl b (he ▸ hlt)

theorem ext {s t : IdSet} (h : ∀ id, id ∈ s ↔ id ∈ t) : s = t := by
  have hlist : s.toList = t.toList := by
    apply List.Perm.eq_of_pairwise _ s.ascending t.ascending
    · exact (List.perm_ext_iff_of_nodup s.nodup t.nodup).2 h
    · intro a b _ _ hab hba
      exact absurd hab (String.lt_asymm hba)
  cases s; cases t
  simp_all

@[simp] theorem mem_empty {id : UnitId} : id ∉ (∅ : IdSet) := List.not_mem_nil

@[simp] theorem mem_erase {s : IdSet} {id x : UnitId} : x ∈ s.erase id ↔ x ∈ s ∧ x ≠ id := by
  rw [← mem_toList, erase, List.mem_filter, mem_toList]
  simp

theorem mem_foldl_insert {ids : List UnitId} {s : IdSet} {x : UnitId} :
    x ∈ ids.foldl insert s ↔ x ∈ s ∨ x ∈ ids := by
  induction ids generalizing s with
  | nil => simp
  | cons id ids ih =>
      rw [List.foldl_cons, ih, mem_insert, List.mem_cons]
      tauto

@[simp] theorem mem_union {s t : IdSet} {x : UnitId} : x ∈ s.union t ↔ x ∈ s ∨ x ∈ t :=
  mem_foldl_insert

@[simp] theorem mem_ofList {ids : List UnitId} {x : UnitId} : x ∈ ofList ids ↔ x ∈ ids := by
  rw [ofList, mem_foldl_insert]
  exact or_iff_right mem_empty

theorem ofList_toList (s : IdSet) : ofList s.toList = s := by
  apply ext
  intro id
  rw [mem_ofList, mem_toList]

/-- A set that is made of a list is as long as the list exactly if no name occurs twice. -/
theorem length_ofList_iff {ids : List UnitId} :
    (ofList ids).toList.length = ids.length ↔ ids.Nodup := by
  have same : (ofList ids).toList.Perm ids.dedup := by
    rw [List.perm_ext_iff_of_nodup (ofList ids).nodup ids.nodup_dedup]
    intro x
    rw [mem_toList, mem_ofList, List.mem_dedup]
  rw [same.length_eq, ← List.dedup_eq_self]
  constructor
  · exact (List.dedup_sublist ids).eq_of_length
  · exact congrArg List.length

end BuildAdmission.IdSet
