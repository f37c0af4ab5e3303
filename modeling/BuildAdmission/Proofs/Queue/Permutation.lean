import BuildAdmission.Queue.Heap
import Mathlib.Data.List.Perm.Basic

namespace BuildAdmission.Heap

open scoped List

variable {α : Type} (before : α → α → Bool)

/-! Whatever the order, the heap neither loses an item nor makes one up. -/

theorem swapIfInBounds_perm (items : Array α) (i j : Nat) :
    (items.swapIfInBounds i j).Perm items := by
  rw [Array.swapIfInBounds_def]
  split
  · split
    · exact Array.swap_perm _ _
    · exact .rfl
  · exact .rfl

theorem siftUp_perm (items : Array α) (i : Nat) : (siftUp before items i).Perm items := by
  fun_induction siftUp before items i with
  | case1 items i h ih => exact ih.trans (swapIfInBounds_perm items i (parent i))
  | case2 => exact .rfl

theorem siftDown_perm (items : Array α) (i : Nat) : (siftDown before items i).Perm items := by
  fun_induction siftDown before items i with
  | case1 items i child h ih => exact ih.trans (swapIfInBounds_perm items i child)
  | case2 => exact .rfl

theorem settle_perm (items : Array α) (i : Nat) : (settle before items i).Perm items := by
  fun_induction settle before items i with
  | case1 items i child h ih => exact ih.trans (swapIfInBounds_perm items i child)
  | case2 items i => exact siftUp_perm before items i

theorem foldl_perm {step : Array α → Nat → Array α} (h : ∀ items i, (step items i).Perm items)
    (is : List Nat) (items : Array α) : (is.foldl step items).Perm items := by
  induction is generalizing items with
  | nil => exact .rfl
  | cons i is ih => exact (ih (step items i)).trans (h items i)

theorem repair_perm (items : Array α) (start : Nat) : (repair before items start).Perm items := by
  unfold repair build
  split
  · exact foldl_perm (siftDown_perm before) _ items
  · exact foldl_perm (siftUp_perm before) _ items

theorem push_perm (items : Array α) (x : α) :
    (push before items x).toList.Perm (x :: items.toList) := by
  have h := (siftUp_perm before (items.push x) items.size).toList
  rw [Array.toList_push] at h
  exact h.trans (List.perm_append_singleton x items.toList)

/-- The first item goes to the end, where it is taken off. -/
theorem push_pop_swap {items : Array α} {x : α} (h : items[0]? = some x) :
    ((items.swapIfInBounds 0 (items.size - 1)).pop).push x =
      items.swapIfInBounds 0 (items.size - 1) := by
  obtain ⟨hpos, hx⟩ := Array.getElem?_eq_some_iff.1 h
  have hlast : (items.swapIfInBounds 0 (items.size - 1))[items.size - 1]? = some x := by
    rw [Array.getElem?_eq_getElem (by simp; omega), Array.getElem_swapIfInBounds_right hpos, hx]
  apply Array.ext
  · simp; omega
  · intro i hi hi'
    rw [Array.getElem_push]
    split
    · simp
    · next hge =>
      have he : i = items.size - 1 := by simp at hge hi'; omega
      subst he
      exact (Option.some.inj ((Array.getElem?_eq_getElem hi').symm.trans hlast)).symm

theorem pop?_perm {items rest : Array α} {x : α} (h : pop? before items = some (x, rest)) :
    items.toList.Perm (x :: rest.toList) := by
  obtain ⟨y, hy, he⟩ := Option.map_eq_some_iff.1 h
  cases he
  let swapped := items.swapIfInBounds 0 (items.size - 1)
  calc items.toList
    _ ~ swapped.toList := (swapIfInBounds_perm items 0 _).toList.symm
    _ ~ (swapped.pop.push x).toList := by rw [push_pop_swap hy]
    _ ~ x :: swapped.pop.toList := by
      rw [Array.toList_push]
      exact List.perm_append_singleton x swapped.pop.toList
    _ ~ x :: (settle before swapped.pop 0).toList :=
      ((settle_perm before swapped.pop 0).toList.cons x).symm

theorem remove?_perm {p : α → Bool} {items rest : Array α} {x : α}
    (h : remove? before p items = some (x, rest)) :
    p x = true ∧ items.toList.Perm (x :: rest.toList) := by
  simp only [remove?, Option.bind_eq_bind, Option.bind_eq_some_iff] at h
  obtain ⟨i, hi, y, hy, he⟩ := h
  cases he
  obtain ⟨hlt, hp, _⟩ := Array.findIdx?_eq_some_iff_getElem.1 hi
  have hx : items[i] = x := Option.some.inj ((Array.getElem?_eq_getElem hlt).symm.trans hy)
  have herase := (repair_perm before (items.eraseIdxIfInBounds i) i).toList
  rw [Array.toList_eraseIdxIfInBounds] at herase
  refine ⟨hx ▸ hp, ?_⟩
  have hi' : i < items.toList.length := by simpa using hlt
  have hcons := (List.getElem_cons_eraseIdx_perm hi').symm
  rw [Array.getElem_toList, hx] at hcons
  exact hcons.trans (herase.cons x).symm

theorem remove?_eq_none {p : α → Bool} {items : Array α} (h : remove? before p items = none) :
    ∀ x ∈ items.toList, p x = false := by
  cases hi : items.findIdx? p with
  | none => simpa using Array.findIdx?_eq_none_iff.1 hi
  | some i =>
      obtain ⟨hlt, _⟩ := Array.findIdx?_eq_some_iff_getElem.1 hi
      simp [remove?, hi, hlt] at h

end BuildAdmission.Heap
