import BuildAdmission.Proofs.Queue.Permutation
import Mathlib.Logic.Equiv.Basic

namespace BuildAdmission.Heap

variable {α : Type} {before : α → α → Bool} {items : Array α} {i j k n : Nat} {within : Nat → Prop}

/-- Items can be put in order: of two at most one goes before the other, and what does not go before
an item does not go before one that comes earlier. -/
structure Ranks (before : α → α → Bool) : Prop where
  asymm : ∀ a b, before a b = true → before b a = false
  trans : ∀ a b c, before b a = false → before c b = false → before c a = false

/-- Of the items at certain places, none goes before its parent. -/
def OrderedOn (before : α → α → Bool) (within : Nat → Prop) (items : Array α) : Prop :=
  ∀ k, within k → k ≠ 0 → goesBefore before items k (parent k) = false

def Ordered (before : α → α → Bool) (items : Array α) : Prop :=
  OrderedOn before (fun _ => True) items

/-! ### Places -/

theorem parent_lt (h : i ≠ 0) : parent i < i := by
  unfold parent; omega

theorem ne_zero_of_parent (h : parent k = i) (hi : i ≠ 0) : k ≠ 0 := by
  unfold parent at h; omega

theorem children_of_parent (h : parent k = i) (hk : k ≠ 0) : k = 2 * i + 1 ∨ k = 2 * i + 2 := by
  unfold parent at h; omega

theorem parent_firstChild (before : α → α → Bool) (items : Array α) (i : Nat) :
    parent (firstChild before items i) = i := by
  unfold firstChild parent
  split <;> omega

/-! ### Comparing items at places -/

theorem goesBefore_eq_true_iff : goesBefore before items i j = true ↔
    ∃ x y, items[i]? = some x ∧ items[j]? = some y ∧ before x y = true := by
  unfold goesBefore
  cases items[i]? <;> cases items[j]? <;> simp

theorem goesBefore_beyond (h : items.size ≤ i) : goesBefore before items i j = false := by
  unfold goesBefore
  rw [Array.getElem?_eq_none h]

theorem lt_size_of_goesBefore (h : goesBefore before items i j = true) :
    i < items.size ∧ j < items.size := by
  obtain ⟨x, y, hx, hy, _⟩ := goesBefore_eq_true_iff.1 h
  exact ⟨(Array.getElem?_eq_some_iff.1 hx).1, (Array.getElem?_eq_some_iff.1 hy).1⟩

theorem Ranks.goesBefore_asymm (hr : Ranks before) (h : goesBefore before items i j = true) :
    goesBefore before items j i = false := by
  obtain ⟨x, y, hx, hy, hxy⟩ := goesBefore_eq_true_iff.1 h
  simp only [goesBefore, hx, hy, hr.asymm x y hxy]

theorem Ranks.goesBefore_irrefl (hr : Ranks before) (i : Nat) :
    goesBefore before items i i = false := by
  by_contra h
  rw [Bool.not_eq_false] at h
  cases h.symm.trans (hr.goesBefore_asymm h)

theorem Ranks.goesBefore_trans (hr : Ranks before) (hj : j < items.size)
    (h : goesBefore before items j i = false) (h' : goesBefore before items k j = false) :
    goesBefore before items k i = false := by
  unfold goesBefore at *
  rw [Array.getElem?_eq_getElem hj] at h h'
  cases hi : items[i]? with
  | none => cases items[k]? <;> rfl
  | some a =>
      cases hk : items[k]? with
      | none => rfl
      | some c =>
          rw [hi] at h
          rw [hk] at h'
          exact hr.trans a items[j] c h h'

theorem goesBefore_congr {items' : Array α} (hi : items'[i]? = items[i]?)
    (hj : items'[j]? = items[j]?) :
    goesBefore before items' i j = goesBefore before items i j := by
  simp only [goesBefore, hi, hj]

theorem getElem?_swap (hi : i < items.size) (hj : j < items.size) (k : Nat) :
    (items.swapIfInBounds i j)[k]? = items[Equiv.swap i j k]? := by
  rw [Array.swapIfInBounds_def, dif_pos hi, dif_pos hj, Array.getElem?_swap, Equiv.swap_apply_def]
  by_cases hki : k = i
  · subst hki
    by_cases hkj : k = j
    · subst hkj; simp [hi]
    · simp [hj, Ne.symm hkj]
  · by_cases hkj : k = j
    · subst hkj; simp [hi, hki]
    · simp [hki, hkj, Ne.symm hki, Ne.symm hkj]

theorem goesBefore_swap (hi : i < items.size) (hj : j < items.size) (k n : Nat) :
    goesBefore before (items.swapIfInBounds i j) k n =
      goesBefore before items (Equiv.swap i j k) (Equiv.swap i j n) := by
  simp only [goesBefore, getElem?_swap hi hj]

/-! ### An item that moves -/

/-- All is in order but for the item at `i`, whose children do not go before its parent. -/
structure Around (before : α → α → Bool) (within : Nat → Prop) (items : Array α) (i : Nat) : Prop where
  others : ∀ k, within k → k ≠ 0 → k ≠ i → parent k ≠ i →
    goesBefore before items k (parent k) = false
  bypass : i ≠ 0 → within i → ∀ k, within k → parent k = i →
    goesBefore before items k (parent i) = false

/-- The children of the item at `i` do not go before it. -/
def Below (before : α → α → Bool) (within : Nat → Prop) (items : Array α) (i : Nat) : Prop :=
  ∀ k, within k → k ≠ 0 → parent k = i → goesBefore before items k i = false

/-- The item at `i` does not go before its parent. -/
def Above (before : α → α → Bool) (within : Nat → Prop) (items : Array α) (i : Nat) : Prop :=
  within i → i ≠ 0 → goesBefore before items i (parent i) = false

theorem Around.orderedOn (h : Around before within items i) (below : Below before within items i)
    (above : Above before within items i) : OrderedOn before within items := by
  intro k hk hpos
  by_cases hki : k = i
  · subst hki
    exact above hk hpos
  · by_cases hp : parent k = i
    · rw [hp]
      exact below k hk hpos hp
    · exact h.others k hk hpos hki hp

/-- An item that goes before its parent changes places with it. -/
theorem Around.up (hr : Ranks before) (h : Around before within items i) (hin : within i)
    (hip : within (parent i)) (hi : i ≠ 0)
    (early : goesBefore before items i (parent i) = true) :
    Around before within (items.swapIfInBounds i (parent i)) (parent i) ∧
      Below before within (items.swapIfInBounds i (parent i)) (parent i) := by
  obtain ⟨hsize, hpsize⟩ := lt_size_of_goesBefore early
  have late := hr.goesBefore_asymm early
  have hlt := parent_lt hi
  have old (k : Nat) (hk : within k) (hki : k ≠ i) (hp : parent k = parent i) (hpos : k ≠ 0) :
      goesBefore before items k (parent i) = false := by
    rw [← hp]
    exact h.others k hk hpos hki (by omega)
  refine ⟨⟨?_, ?_⟩, ?_⟩
  · intro k hk hpos hkp hpk
    have hki : k ≠ i := fun he => hpk (congrArg parent he)
    rw [goesBefore_swap hsize hpsize, Equiv.swap_apply_of_ne_of_ne hki hkp]
    by_cases hchild : parent k = i
    · rw [hchild, Equiv.swap_apply_left]
      exact h.bypass hi hin k hk hchild
    · rw [Equiv.swap_apply_of_ne_of_ne hchild hpk]
      exact h.others k hk hpos hki hchild
  · intro hpi _ k hk hp
    have hpp := parent_lt hpi
    have upper : goesBefore before items (parent i) (parent (parent i)) = false :=
      h.others (parent i) hip hpi (by omega) (by omega)
    have hpos : k ≠ 0 := ne_zero_of_parent hp hpi
    rw [goesBefore_swap hsize hpsize,
      Equiv.swap_apply_of_ne_of_ne (show parent (parent i) ≠ i by omega) (by omega)]
    by_cases hki : k = i
    · rw [hki, Equiv.swap_apply_left]
      exact upper
    · have hkp : k ≠ parent i := by have := parent_lt hpos; omega
      rw [Equiv.swap_apply_of_ne_of_ne hki hkp]
      exact hr.goesBefore_trans hpsize upper (old k hk hki hp hpos)
  · intro k hk hpos hp
    rw [goesBefore_swap hsize hpsize, Equiv.swap_apply_right]
    by_cases hki : k = i
    · rw [hki, Equiv.swap_apply_left]
      exact late
    · have hkp : k ≠ parent i := by have := parent_lt hpos; omega
      rw [Equiv.swap_apply_of_ne_of_ne hki hkp]
      exact hr.goesBefore_trans hpsize late (old k hk hki hp hpos)

theorem siftUp_ordered (hr : Ranks before) (h : Around before within items i)
    (below : Below before within items i) (inside : ∀ k, within k → within (parent k))
    (hin : within i) : OrderedOn before within (siftUp before items i) := by
  fun_induction siftUp before items i with
  | case1 items i hmoves ih =>
      obtain ⟨hi, early⟩ := hmoves
      obtain ⟨around, below⟩ := h.up hr hin (inside i hin) hi early
      exact ih around below (inside i hin)
  | case2 items i hstays =>
      refine h.orderedOn below fun _ hi => ?_
      simpa [hi] using hstays

/-- No child goes before the first one. -/
theorem Ranks.goesBefore_firstChild (hr : Ranks before) (hk : k ≠ 0) (hp : parent k = i) :
    goesBefore before items k (firstChild before items i) = false := by
  unfold firstChild
  rcases children_of_parent hp hk with rfl | rfl
  · split
    · next h => simpa using h.2
    · exact hr.goesBefore_irrefl _
  · split
    · exact hr.goesBefore_irrefl _
    · next h =>
      rw [not_and_or, Bool.not_eq_true, Bool.not_eq_false'] at h
      rcases h with beyond | early
      · exact goesBefore_beyond (Nat.le_of_not_lt beyond)
      · exact hr.goesBefore_asymm early

/-- An item changes places with the first of its children. -/
theorem Around.down (hr : Ranks before) (h : Around before within items i)
    (inside : ∀ k, parent k = i → within k)
    (hchild : firstChild before items i < items.size) :
    Around before within (items.swapIfInBounds i (firstChild before items i))
      (firstChild before items i) := by
  have hlt := lt_firstChild before items i
  have hpc := parent_firstChild before items i
  have hcin := inside _ hpc
  have hfirst (k : Nat) (hk : k ≠ 0) (hp : parent k = i) :
      goesBefore before items k (firstChild before items i) = false :=
    hr.goesBefore_firstChild hk hp
  generalize firstChild before items i = c at *
  have hsize : i < items.size := by omega
  constructor
  · intro k hk hpos hkc hpk
    rw [goesBefore_swap hsize hchild]
    by_cases hki : k = i
    · subst hki
      have hkp := parent_lt hpos
      rw [Equiv.swap_apply_left, Equiv.swap_apply_of_ne_of_ne (by omega) (by omega)]
      exact h.bypass hpos hk c hcin hpc
    · rw [Equiv.swap_apply_of_ne_of_ne hki hkc]
      by_cases hp : parent k = i
      · rw [hp, Equiv.swap_apply_left]
        exact hfirst k hpos hp
      · rw [Equiv.swap_apply_of_ne_of_ne hp hpk]
        exact h.others k hk hpos hki hp
  · intro hc _ k hk hp
    have hpos := ne_zero_of_parent hp hc
    have hkp := parent_lt hpos
    have hedge := h.others k hk hpos (by omega) (by omega)
    rw [hp] at hedge
    rw [goesBefore_swap hsize hchild, hpc, Equiv.swap_apply_left,
      Equiv.swap_apply_of_ne_of_ne (by omega) (by omega)]
    exact hedge

/-- The children of an item that none of them goes before, which is known by the first one. -/
theorem Ranks.below (hr : Ranks before) (stays : ¬ (firstChild before items i < items.size ∧
    goesBefore before items (firstChild before items i) i = true)) : Below before within items i := by
  intro k _ hpos hp
  by_cases hchild : firstChild before items i < items.size
  · have late : goesBefore before items (firstChild before items i) i = false := by
      simpa [hchild] using stays
    exact hr.goesBefore_trans hchild late (hr.goesBefore_firstChild hpos hp)
  · apply goesBefore_beyond
    have hk := children_of_parent hp hpos
    unfold firstChild at hchild
    split at hchild <;> omega

theorem siftDown_ordered (hr : Ranks before) (h : Around before within items i)
    (above : Above before within items i) (inside : ∀ k, i ≤ parent k → within k) :
    OrderedOn before within (siftDown before items i) := by
  fun_induction siftDown before items i with
  | case1 items i child hmoves ih =>
      have hlt : i < child := lt_firstChild before items i
      have hpc : parent child = i := parent_firstChild before items i
      refine ih (h.down hr (fun k hk => inside k (Nat.le_of_eq hk.symm)) hmoves.1) ?_
        (fun k hk => inside k (by omega))
      intro _ _
      rw [goesBefore_swap (by omega) hmoves.1, hpc, Equiv.swap_apply_left, Equiv.swap_apply_right]
      exact hr.goesBefore_asymm hmoves.2
  | case2 items i child hstays => exact h.orderedOn (hr.below hstays) above

theorem settle_ordered (hr : Ranks before) (h : Around before (fun _ => True) items i) :
    Ordered before (settle before items i) := by
  fun_induction settle before items i with
  | case1 items i child hmoves ih => exact ih (h.down hr (fun _ _ => trivial) hmoves)
  | case2 items i child hleaf =>
      exact siftUp_ordered hr h (hr.below fun hmoves => hleaf hmoves.1) (fun _ _ => trivial) trivial

/-! ### All items in order -/

theorem OrderedOn.ordered (h : OrderedOn before (· < items.size) items) : Ordered before items := by
  intro k _ hpos
  by_cases hk : k < items.size
  · exact h k hk hpos
  · exact goesBefore_beyond (Nat.le_of_not_lt hk)

theorem build_ordered (hr : Ranks before) (items : Array α) : Ordered before (build before items) := by
  have fold (n : Nat) (items : Array α) (h : OrderedOn before (n ≤ parent ·) items) :
      Ordered before ((List.range n).reverse.foldl (siftDown before) items) := by
    induction n generalizing items with
    | zero => exact fun k _ => h k (Nat.zero_le _)
    | succ n ih =>
        rw [List.range_succ, List.reverse_append, List.reverse_singleton, List.singleton_append,
          List.foldl_cons]
        refine ih _ (siftDown_ordered hr ⟨?_, ?_⟩ ?_ fun _ hk => hk)
        · intro k hk hpos _ hp
          exact h k (by omega) hpos
        · intro hn hin
          exact absurd (parent_lt hn) (Nat.not_lt.2 hin)
        · intro hin hn
          exact absurd (parent_lt hn) (Nat.not_lt.2 hin)
  refine fold _ items ?_
  intro k hk hpos
  apply goesBefore_beyond
  unfold parent at hk
  omega

/-- An item that comes behind a prefix in order joins it. -/
theorem siftUp_next (hr : Ranks before) (h : OrderedOn before (· < n) items) :
    OrderedOn before (· < n + 1) (siftUp before items n) := by
  have childless (k : Nat) (hk : k < n + 1) (hpos : k ≠ 0) : parent k ≠ n := by
    have := parent_lt hpos
    omega
  refine siftUp_ordered hr ⟨?_, ?_⟩ ?_ ?_ (Nat.lt_succ_self n)
  · intro k hk hpos hkn _
    exact h k (by omega) hpos
  · intro hn _ k hk hp
    exact absurd hp (childless k hk (ne_zero_of_parent hp hn))
  · intro k hk hpos hp
    exact absurd hp (childless k hk hpos)
  · intro k hk
    unfold parent
    omega

theorem repair_ordered (hr : Ranks before) (h : OrderedOn before (· < n) items) :
    Ordered before (repair before items n) := by
  have fold (count n : Nat) (items : Array α) (h : OrderedOn before (· < n) items) :
      OrderedOn before (· < n + count) ((List.range' n count).foldl (siftUp before) items) := by
    induction count generalizing n items with
    | zero => exact h
    | succ count ih =>
        have := ih (n + 1) _ (siftUp_next hr h)
        rwa [Nat.add_right_comm] at this
  unfold repair
  split
  · exact build_ordered hr items
  · apply OrderedOn.ordered
    intro k hk hpos
    rw [(foldl_perm (siftUp_perm before) _ items).size_eq] at hk
    exact fold _ n items h k (by omega) hpos

theorem ordered_empty : Ordered before #[] :=
  fun _ _ _ => goesBefore_beyond (Nat.zero_le _)

theorem push_ordered (hr : Ranks before) (h : Ordered before items) (x : α) :
    Ordered before (push before items x) := by
  have early (j : Nat) (hj : j < items.size) : (items.push x)[j]? = items[j]? := by
    rw [Array.getElem?_push_lt hj, Array.getElem?_eq_getElem hj]
  have others : OrderedOn before (· < items.size) (items.push x) := by
    intro k hk hpos
    have hp := parent_lt hpos
    rw [goesBefore_congr (early k hk) (early (parent k) (by omega))]
    exact h k trivial hpos
  have size : (push before items x).size = items.size + 1 :=
    (siftUp_perm before (items.push x) items.size).size_eq.trans (Array.size_push x)
  apply OrderedOn.ordered
  rw [size]
  exact siftUp_next hr others

theorem pop?_ordered (hr : Ranks before) (h : Ordered before items) {x : α} {rest : Array α}
    (hpop : pop? before items = some (x, rest)) : Ordered before rest := by
  obtain ⟨first, hfirst, he⟩ := Option.map_eq_some_iff.1 hpop
  cases he
  have hsize := (Array.getElem?_eq_some_iff.1 hfirst).1
  have inner (k : Nat) (hk : k < items.size - 1) (hpos : k ≠ 0) :
      ((items.swapIfInBounds 0 (items.size - 1)).pop)[k]? = items[k]? := by
    rw [Array.getElem?_pop, if_pos (by simpa using hk), getElem?_swap hsize (by omega),
      Equiv.swap_apply_of_ne_of_ne hpos (by omega)]
  refine settle_ordered hr ⟨?_, fun h0 => absurd rfl h0⟩
  intro k _ hpos _ hp
  by_cases hk : k < items.size - 1
  · have hlt := parent_lt hpos
    rw [goesBefore_congr (inner k hk hpos) (inner (parent k) (by omega) hp)]
    exact h k trivial hpos
  · exact goesBefore_beyond (by simpa using hk)

theorem remove?_ordered (hr : Ranks before) (h : Ordered before items) {p : α → Bool} {x : α}
    {rest : Array α} (hremove : remove? before p items = some (x, rest)) : Ordered before rest := by
  simp only [remove?, Option.bind_eq_bind, Option.bind_eq_some_iff] at hremove
  obtain ⟨i, hi, y, hy, he⟩ := hremove
  cases he
  apply repair_ordered hr
  intro k hk hpos
  have hsize := (Array.getElem?_eq_some_iff.1 hy).1
  have hp := parent_lt hpos
  have early (j : Nat) (hj : j < i) : (items.eraseIdxIfInBounds i)[j]? = items[j]? := by
    rw [Array.eraseIdxIfInBounds_eq, dif_pos hsize, Array.getElem?_eraseIdx_of_lt hsize hj]
  rw [goesBefore_congr (early k hk) (early (parent k) (by omega))]
  exact h k trivial hpos

/-- In a heap in order no item goes before the first one. -/
theorem Ordered.first (hr : Ranks before) (h : Ordered before items) {first : α}
    (hfirst : items[0]? = some first) : ∀ x ∈ items, before x first = false := by
  have upTo (k : Nat) : goesBefore before items k 0 = false := by
    induction k using Nat.strongRecOn with
    | _ k ih =>
        by_cases hpos : k = 0
        · rw [hpos]
          exact hr.goesBefore_irrefl 0
        · by_cases hk : k < items.size
          · have hlt := parent_lt hpos
            exact hr.goesBefore_trans (by omega) (ih (parent k) hlt) (h k trivial hpos)
          · exact goesBefore_beyond (Nat.le_of_not_lt hk)
  intro x hx
  obtain ⟨k, hk, rfl⟩ := Array.mem_iff_getElem.1 hx
  simpa [goesBefore, hfirst, hk] using upTo k

end BuildAdmission.Heap
