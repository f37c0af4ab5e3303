namespace BuildAdmission

namespace Heap

variable {α : Type} (before : α → α → Bool)

def goesBefore (items : Array α) (i j : Nat) : Bool :=
  match items[i]?, items[j]? with
  | some x, some y => before x y
  | _, _ => false

/-- Items stand in level order: the children of the item at `i` are at `2 * i + 1` and `2 * i + 2`.
In a heap no item goes before its parent. -/
def parent (i : Nat) : Nat := (i - 1) / 2

/-- Moves an item up past the parents that it goes before. -/
def siftUp (items : Array α) (i : Nat) : Array α :=
  if i ≠ 0 ∧ goesBefore before items i (parent i) then
    siftUp (items.swapIfInBounds i (parent i)) (parent i)
  else items
termination_by i
decreasing_by simp only [parent]; omega

/-- The child that goes first, of equals the right one. -/
def firstChild (items : Array α) (i : Nat) : Nat :=
  if 2 * i + 2 < items.size ∧ !goesBefore before items (2 * i + 1) (2 * i + 2) then 2 * i + 2
  else 2 * i + 1

theorem lt_firstChild (items : Array α) (i : Nat) : i < firstChild before items i := by
  unfold firstChild; split <;> omega

/-- Moves an item down past the first children that go before it. -/
def siftDown (items : Array α) (i : Nat) : Array α :=
  let child := firstChild before items i
  if child < items.size ∧ goesBefore before items child i then
    siftDown (items.swapIfInBounds i child) child
  else items
termination_by items.size - i
decreasing_by
  have := lt_firstChild before items i
  simp only [Array.size_swapIfInBounds]; omega

/-- Moves an item down along first children to a leaf, and from there up to its place. -/
def settle (items : Array α) (i : Nat) : Array α :=
  let child := firstChild before items i
  if child < items.size then settle (items.swapIfInBounds i child) child
  else siftUp before items i
termination_by items.size - i
decreasing_by
  have := lt_firstChild before items i
  simp only [Array.size_swapIfInBounds]; omega

def push (items : Array α) (x : α) : Array α := siftUp before (items.push x) items.size

/-- The first item and the heap without it. The last one fills the gap. -/
def pop? (items : Array α) : Option (α × Array α) :=
  items[0]?.map fun first =>
    (first, settle before (items.swapIfInBounds 0 (items.size - 1)).pop 0)

def build (items : Array α) : Array α :=
  (List.range (items.size / 2)).reverse.foldl (siftDown before) items

/-- Whether it is cheaper to put all items in order than those from `start` on one by one. -/
def favoursBuild (size start : Nat) : Bool :=
  start < size - start ||
    2 * size < (size - start) * (if size ≤ 2048 then start.log2 else 11)

/-- Puts the items from `start` on in order with those before, which are so already. -/
def repair (items : Array α) (start : Nat) : Array α :=
  if favoursBuild items.size start then build before items
  else (List.range' start (items.size - start)).foldl (siftUp before) items

/-- The first item in level order that has a property and the heap without it. -/
def remove? (p : α → Bool) (items : Array α) : Option (α × Array α) := do
  let i ← items.findIdx? p
  let x ← items[i]?
  return (x, repair before (items.eraseIdxIfInBounds i) i)

end Heap

end BuildAdmission
