import BuildAdmission.Proofs.Queue.Line

namespace BuildAdmission

open scoped List

/-- The lower priority number goes first, and of the same priority the earlier arrival. -/
def QueuedLaunch.Earlier (a b : QueuedLaunch) : Prop :=
  a.priority < b.priority ∨ a.priority = b.priority ∧ a.seq < b.seq

namespace AdmissionQueue

/-- What became of the empty queue after some calls, with the launches that are taken out of it
and those that ever arrived. A launch goes back only while it is out. -/
inductive Handled : AdmissionQueue → List QueuedLaunch → List QueuedLaunch → Prop
  | empty : Handled empty [] []
  | enqueue {q : AdmissionQueue} {out all} (h : Handled q out all) (id task priority) :
      Handled (q.enqueue id task priority).2 out
        (all ++ [⟨id, task, priority, (q.enqueue id task priority).1⟩])
  | pop {q rest : AdmissionQueue} {out all launch} (h : Handled q out all)
      (taken : q.pop? = some (launch, rest)) : Handled rest (launch :: out) all
  | remove {q rest : AdmissionQueue} {out all id launch} (h : Handled q out all)
      (taken : q.remove? id = some (launch, rest)) : Handled rest (launch :: out) all
  | requeue {q : AdmissionQueue} {out all launch} (h : Handled q out all) (mem : launch ∈ out) :
      Handled (q.requeue launch) (out.erase launch) all

variable {q rest : AdmissionQueue} {launch : QueuedLaunch} {front back out all : List QueuedLaunch}

/-- The launches that stay keep their order. -/
theorem entries_taken (numbered : (q.entries.map (·.seq)).Nodup)
    (taken : q.entries ~ launch :: rest.entries) (listed : q.entries = front ++ launch :: back) :
    rest.entries = front ++ back := by
  have others : (rest.entries.map (·.seq)).Nodup :=
    (List.nodup_cons.1 ((taken.map (·.seq)).nodup_iff.1 numbered)).2
  have same : rest.entries ~ front ++ back :=
    (taken.symm.trans (listed ▸ List.perm_middle)).cons_inv
  have sorted := listed ▸ q.sorted_entries
  exact entries_eq_of_sorted others same
    (sorted.sublist ((List.sublist_cons_self _ _).append_left _))

/-- A launch that comes in stands between those that go before it and those that go after it. -/
theorem entries_requeue (numbered : ((q.requeue launch).entries.map (·.seq)).Nodup) :
    ∃ front back, q.entries = front ++ back ∧ (q.requeue launch).entries = front ++ launch :: back ∧
      (∀ a ∈ front, a.Earlier launch) ∧ ∀ b ∈ back, launch.Earlier b := by
  have joined := requeue_entries q launch
  obtain ⟨front, back, listed⟩ := List.append_of_mem (joined.mem_iff.2 List.mem_cons_self)
  have strict := listed ▸ entries_strict numbered
  obtain ⟨_, after, before⟩ := List.pairwise_append.1 strict
  exact ⟨front, back, entries_taken numbered joined listed, listed,
    fun a ha => before a ha launch List.mem_cons_self, (List.pairwise_cons.1 after).1⟩

theorem remove?_of_mem (once : (q.entries.map (·.unitId)).Nodup) (mem : launch ∈ q.entries) :
    ∃ rest, q.remove? launch.unitId = some (launch, rest) := by
  cases removed : q.remove? launch.unitId with
  | none => exact absurd rfl (remove?_eq_none removed launch mem)
  | some found =>
      obtain ⟨same, taken, _⟩ := remove?_entries removed
      have mem' : found.1 ∈ q.entries := taken.mem_iff.2 List.mem_cons_self
      rw [← List.inj_on_of_nodup_map once mem' mem same]
      exact ⟨found.2, rfl⟩

theorem remove?_eq_none_iff {id : UnitId} :
    q.remove? id = none ↔ ∀ l ∈ q.entries, l.unitId ≠ id := by
  refine ⟨remove?_eq_none, fun absent => ?_⟩
  cases removed : q.remove? id with
  | none => rfl
  | some found =>
      obtain ⟨named, taken, _⟩ := remove?_entries removed
      exact absurd named (absent _ (taken.mem_iff.2 List.mem_cons_self))

theorem position?_eq_none_iff {id : UnitId} :
    q.position? id = none ↔ ∀ l ∈ q.entries, l.unitId ≠ id := by
  simp [position?, List.findIdx?_eq_none_iff]

namespace Handled

theorem inOrder (h : Handled q out all) : q.InOrder := by
  induction h with
  | empty => exact inOrder_empty
  | enqueue _ id task priority ih => exact ih.enqueue id task priority
  | pop _ taken ih => exact ih.pop? taken
  | remove _ taken ih => exact ih.remove? taken
  | requeue _ _ ih => exact ih.requeue _

/-- No launch is lost and none is there twice. -/
theorem entries_append (h : Handled q out all) : q.entries ++ out ~ all := by
  induction h with
  | empty => simp
  | enqueue _ id task priority ih =>
      exact ((enqueue_entries _ id task priority).append_right _).trans
        ((ih.cons _).trans (List.perm_append_singleton _ _).symm)
  | pop _ taken ih =>
      exact List.perm_middle.trans (((pop?_entries taken).1.append_right _).symm.trans ih)
  | remove _ taken ih =>
      exact List.perm_middle.trans (((remove?_entries taken).2.1.append_right _).symm.trans ih)
  | requeue _ mem ih =>
      refine ((requeue_entries _ _).append_right _).trans (List.Perm.trans ?_ ih)
      exact List.perm_middle.symm.trans ((List.perm_cons_erase mem).symm.append_left _)

theorem seqs (h : Handled q out all) : all.map (·.seq) = List.range q.nextSeq := by
  induction h with
  | empty => rfl
  | enqueue _ id task priority ih => simp [ih, List.range_succ, AdmissionQueue.enqueue]
  | pop _ taken ih => rw [ih, (pop?_entries taken).2]
  | remove _ taken ih => rw [ih, (remove?_entries taken).2.2]
  | requeue _ _ ih => exact ih

theorem numbered (h : Handled q out all) : (q.entries.map (·.seq)).Nodup := by
  have distinct : (all.map (·.seq)).Nodup := h.seqs ▸ List.nodup_range
  have both := (h.entries_append.map (·.seq)).nodup_iff.2 distinct
  rw [List.map_append] at both
  exact both.of_append_left

theorem issued (h : Handled q out all) : ∀ l ∈ all, l.seq < q.nextSeq := by
  intro l hl
  exact List.mem_range.1 (h.seqs ▸ List.mem_map_of_mem hl)

end Handled

/-- What can be told of a queue from the sorted list of its launches alone. -/
structure ActsAsList (q : AdmissionQueue) (out all : List QueuedLaunch) : Prop where
  sorted : q.entries.Pairwise QueuedLaunch.Earlier
  numbered : (q.entries.map (·.seq)).Nodup
  /-- What arrived is in the queue or out of it, once. -/
  whole : q.entries ++ out ~ all ∧ (all.map (·.seq)).Nodup
  pop_none : q.pop? = none ↔ q.entries = []
  pop : ∀ launch rest, q.pop? = some (launch, rest) →
    q.entries = launch :: rest.entries ∧ (rest.requeue launch).entries = q.entries
  issued : ∀ id task priority, ∀ l ∈ all, l.seq < (q.enqueue id task priority).1
  /-- A new launch stands directly behind the last one with at most its priority number. -/
  enqueue : ∀ id task priority, ∃ front back, q.entries = front ++ back ∧
    (q.enqueue id task priority).2.entries =
      front ++ ⟨id, task, priority, (q.enqueue id task priority).1⟩ :: back ∧
    (∀ a ∈ front, a.priority ≤ priority) ∧ ∀ b ∈ back, priority < b.priority
  requeue : ∀ launch ∈ out, ∃ front back, q.entries = front ++ back ∧
    (q.requeue launch).entries = front ++ launch :: back ∧
    (∀ a ∈ front, a.Earlier launch) ∧ ∀ b ∈ back, launch.Earlier b
  remove_none : ∀ id, q.remove? id = none ↔ ∀ l ∈ q.entries, l.unitId ≠ id
  remove : ∀ id launch rest, q.remove? id = some (launch, rest) → launch.unitId = id ∧
    q.entries ~ launch :: rest.entries ∧ (rest.requeue launch).entries = q.entries ∧
    ∀ front back, q.entries = front ++ launch :: back → rest.entries = front ++ back
  /-- Where a unit has one launch at most, that one is found. -/
  find : (q.entries.map (·.unitId)).Nodup → ∀ front launch back,
    q.entries = front ++ launch :: back → q.position? launch.unitId = some front.length ∧
      ∃ rest, q.remove? launch.unitId = some (launch, rest) ∧ rest.entries = front ++ back
  position_none : ∀ id, q.position? id = none ↔ ∀ l ∈ q.entries, l.unitId ≠ id

namespace Handled

theorem entries_enqueue (h : Handled q out all) (id : UnitId) (task : LaunchTask)
    (priority : Int32) : ∃ front back, q.entries = front ++ back ∧
      (q.enqueue id task priority).2.entries =
        front ++ ⟨id, task, priority, (q.enqueue id task priority).1⟩ :: back ∧
      (∀ a ∈ front, a.priority ≤ priority) ∧ ∀ b ∈ back, priority < b.priority := by
  have issued : ∀ l ∈ q.entries, l.seq < q.nextSeq := fun l hl =>
    h.issued l (h.entries_append.subset (List.mem_append_left _ hl))
  have listed := AdmissionQueue.entries_enqueue h.numbered issued id task priority
  have split := entries_taken (h.enqueue id task priority).numbered
    (enqueue_entries q id task priority) listed
  refine ⟨_, _, split, listed, fun a ha => ?_, fun b hb => ?_⟩
  · exact of_decide_eq_true (List.mem_filter.1 ha).2
  · simpa using (List.mem_filter.1 hb).2

/-- Whatever was called, the queue is the list of its launches in the order of priority and
arrival. -/
theorem actsAsList (h : Handled q out all) : q.ActsAsList out all where
  sorted := entries_strict h.numbered
  numbered := h.numbered
  whole := ⟨h.entries_append, h.seqs ▸ List.nodup_range⟩
  pop_none := pop?_eq_none_iff
  pop launch rest taken :=
    ⟨h.inOrder.entries_pop? h.numbered taken, entries_requeue_pop h.numbered taken⟩
  issued _ _ _ := h.issued
  enqueue := h.entries_enqueue
  requeue launch mem := AdmissionQueue.entries_requeue (h.requeue mem).numbered
  remove_none _ := remove?_eq_none_iff
  remove id launch rest removed :=
    have ⟨named, taken, _⟩ := remove?_entries removed
    ⟨named, taken, (entries_requeue_remove h.numbered removed).1,
      fun _ _ => entries_taken h.numbered taken⟩
  find once front launch back listed := by
    have apart : ∀ l ∈ front, l.unitId ≠ launch.unitId := by
      rw [listed, List.map_append, List.map_cons] at once
      intro l hl
      exact (List.nodup_append.1 once).2.2 _ (List.mem_map_of_mem hl) _ List.mem_cons_self
    have mem : launch ∈ q.entries := by simp [listed]
    obtain ⟨rest, removed⟩ := remove?_of_mem once mem
    exact ⟨position?_append listed apart, rest, removed,
      entries_taken h.numbered (remove?_entries removed).2.1 listed⟩
  position_none _ := position?_eq_none_iff

end Handled

/-- `app` arrives second and goes first. -/
def threeLaunches : AdmissionQueue :=
  let task : LaunchTask := ⟨"build", 1000⟩
  (((empty.enqueue "lib" task 5).2.enqueue "app" task (-1)).2.enqueue "tool" task 5).2

theorem actsAsList_three : ∃ q out all, Handled q out all ∧
    (threeLaunches.pop?.map (·.1.unitId) = some "app" ∧ q.heap.toList.map (·.unitId) = ["tool"] ∧
      out.map (·.unitId) = ["lib", "app"]) ∧ q.ActsAsList out all := by
  let task : LaunchTask := ⟨"build", 1000⟩
  let lib : QueuedLaunch := ⟨"lib", task, 5, 0⟩
  let app : QueuedLaunch := ⟨"app", task, -1, 1⟩
  let tool : QueuedLaunch := ⟨"tool", task, 5, 2⟩
  have arrived : Handled threeLaunches [] [lib, app, tool] :=
    ((Handled.empty.enqueue "lib" task 5).enqueue "app" task (-1)).enqueue "tool" task 5
  have popped : threeLaunches.pop? = some (app, ⟨#[lib, tool], 3⟩) := by decide +kernel
  have removed : remove? ⟨#[lib, tool], 3⟩ "lib" = some (lib, ⟨#[tool], 3⟩) := by decide +kernel
  have handled := (arrived.pop popped).remove removed
  exact ⟨_, _, _, handled, by decide +kernel, handled.actsAsList⟩

end AdmissionQueue

end BuildAdmission
