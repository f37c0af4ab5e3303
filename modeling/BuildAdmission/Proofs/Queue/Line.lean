import BuildAdmission.Proofs.Queue.Entries
import BuildAdmission.Proofs.Queue.Order

namespace BuildAdmission.AdmissionQueue

open scoped List

variable {q rest : AdmissionQueue} {launch : QueuedLaunch} {id : UnitId}

theorem ranks_before : Heap.Ranks QueuedLaunch.before where
  asymm a b h := by
    have late : ¬ (!a.before b) = true := by simp [h]
    rw [← Bool.not_eq_true', not_before_iff]
    rw [not_before_iff] at late
    omega
  trans a b c hba hcb := by
    rw [← Bool.not_eq_true', not_before_iff] at *
    omega

/-- The heap is in order, so that launches are taken from it as they are listed. -/
def InOrder (q : AdmissionQueue) : Prop := Heap.Ordered QueuedLaunch.before q.heap

theorem inOrder_empty : empty.InOrder := Heap.ordered_empty

theorem InOrder.requeue (h : q.InOrder) (launch : QueuedLaunch) : (q.requeue launch).InOrder :=
  Heap.push_ordered ranks_before h launch

theorem InOrder.enqueue (h : q.InOrder) (id : UnitId) (task : LaunchTask) (priority : Int32) :
    (q.enqueue id task priority).2.InOrder :=
  Heap.push_ordered ranks_before h _

theorem InOrder.pop? (h : q.InOrder) (hpop : q.pop? = some (launch, rest)) : rest.InOrder := by
  obtain ⟨_, hheap, he⟩ := Option.map_eq_some_iff.1 hpop
  cases he
  exact Heap.pop?_ordered ranks_before h hheap

theorem InOrder.remove? (h : q.InOrder) (hremove : q.remove? id = some (launch, rest)) :
    rest.InOrder := by
  obtain ⟨_, hheap, he⟩ := Option.map_eq_some_iff.1 hremove
  cases he
  exact Heap.remove?_ordered ranks_before h hheap

theorem size_eq_length (q : AdmissionQueue) : q.size = q.entries.length := by
  rw [(entries_perm q).length_eq, Array.length_toList, size]

theorem pop?_eq_none_iff : q.pop? = none ↔ q.entries = [] := by
  rw [← List.length_eq_zero_iff, ← size_eq_length, size, AdmissionQueue.pop?,
    Option.map_eq_none_iff, Heap.pop?, Option.map_eq_none_iff, Array.getElem?_eq_none_iff]
  omega

/-- The launch that is taken is the first one, and the others stay as they are listed. -/
theorem InOrder.entries_pop? (h : q.InOrder) (numbered : (q.entries.map (·.seq)).Nodup)
    (hpop : q.pop? = some (launch, rest)) : q.entries = launch :: rest.entries := by
  have taken := (pop?_entries hpop).1
  obtain ⟨_, hheap, he⟩ := Option.map_eq_some_iff.1 hpop
  cases he
  obtain ⟨found, hfirst, he⟩ := Option.map_eq_some_iff.1 hheap
  cases he
  have first (l : QueuedLaunch) (hl : l ∈ q.entries) : (!l.before found) = true := by
    have hmem : l ∈ q.heap := Array.mem_toList_iff.1 ((entries_perm q).mem_iff.1 hl)
    simpa using h.first ranks_before hfirst l hmem
  refine entries_eq_of_sorted numbered taken (List.pairwise_cons.2 ⟨?_, sorted_entries _⟩)
  intro l hl
  exact first l (taken.mem_iff.2 (List.mem_cons_of_mem _ hl))

/-- A launch that was taken goes back to its place. -/
theorem entries_requeue_pop (numbered : (q.entries.map (·.seq)).Nodup)
    (hpop : q.pop? = some (launch, rest)) : (rest.requeue launch).entries = q.entries :=
  (entries_eq_of_perm numbered
    ((pop?_entries hpop).1.trans (requeue_entries rest launch).symm)).symm

/-- A new launch stands behind those that came before it and have its priority or go first. -/
theorem entries_enqueue (numbered : (q.entries.map (·.seq)).Nodup)
    (issued : ∀ l ∈ q.entries, l.seq < q.nextSeq) (id : UnitId) (task : LaunchTask)
    (priority : Int32) :
    (q.enqueue id task priority).2.entries = q.entries.filter (fun l => l.priority ≤ priority) ++
      ⟨id, task, priority, q.nextSeq⟩ :: q.entries.filter fun l => !decide (l.priority ≤ priority) := by
  let new : QueuedLaunch := ⟨id, task, priority, q.nextSeq⟩
  have joined := enqueue_entries q id task priority
  have split : new :: q.entries ~ q.entries.filter (fun l => l.priority ≤ priority) ++
      new :: q.entries.filter fun l => !decide (l.priority ≤ priority) :=
    ((List.filter_append_perm _ q.entries).symm.cons new).trans List.perm_middle.symm
  have sorted (p : QueuedLaunch → Bool) := q.sorted_entries.filter p
  have early (l : QueuedLaunch) (hl : l ∈ q.entries.filter fun l => l.priority ≤ priority) :
      l.priority.toInt ≤ priority.toInt ∧ l.seq < q.nextSeq := by
    obtain ⟨hl, hp⟩ := List.mem_filter.1 hl
    exact ⟨Int32.le_iff_toInt_le.1 (of_decide_eq_true hp), issued l hl⟩
  have late (l : QueuedLaunch) (hl : l ∈ q.entries.filter fun l => !decide (l.priority ≤ priority)) :
      priority.toInt < l.priority.toInt := by
    have hp := (List.mem_filter.1 hl).2
    rw [Bool.not_eq_true', decide_eq_false_iff_not, Int32.le_iff_toInt_le] at hp
    omega
  refine entries_eq_of_sorted ?_ (joined.trans split) ?_
  · rw [(joined.map _).nodup_iff]
    refine List.nodup_cons.2 ⟨?_, numbered⟩
    intro hmem
    obtain ⟨l, hl, hseq⟩ := List.mem_map.1 hmem
    exact absurd hseq (Nat.ne_of_lt (issued l hl))
  · simp only [List.pairwise_append, List.pairwise_cons, List.forall_mem_cons, not_before_iff]
    refine ⟨?_, ⟨?_, ?_⟩, ?_⟩
    · simpa only [not_before_iff] using sorted _
    · intro l hl
      exact .inl (late l hl)
    · simpa only [not_before_iff] using sorted _
    · intro l hl
      have hl := early l hl
      refine ⟨by omega, fun l' hl' => ?_⟩
      have hl' := late l' hl'
      omega

/-- Lower priority numbers go first, and of the same priority those that came earlier. -/
theorem entries_strict (numbered : (q.entries.map (·.seq)).Nodup) : q.entries.Pairwise fun a b =>
    a.priority < b.priority ∨ a.priority = b.priority ∧ a.seq < b.seq := by
  refine (q.sorted_entries.and (List.pairwise_map.1 numbered)).imp fun ⟨sorted, distinct⟩ => ?_
  rw [not_before_iff] at sorted
  rw [Int32.lt_iff_toInt_lt, ← Int32.toInt_inj]
  omega

theorem position?_append {front back : List QueuedLaunch} {new : QueuedLaunch}
    (listed : q.entries = front ++ new :: back) (apart : ∀ l ∈ front, l.unitId ≠ new.unitId) :
    q.position? new.unitId = some front.length := by
  have none : front.findIdx? (·.unitId = new.unitId) = none := by
    simpa [List.findIdx?_eq_none_iff] using apart
  simp [position?, listed, List.findIdx?_append, none, List.findIdx?_cons]

end BuildAdmission.AdmissionQueue
