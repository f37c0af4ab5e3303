import BuildAdmission.Proofs.Queue.Permutation
import BuildAdmission.Queue.Basic
import Mathlib.Data.List.Nodup

namespace BuildAdmission.AdmissionQueue

open scoped List

theorem not_before_iff {a b : QueuedLaunch} : (!b.before a) = true ↔
    a.priority.toInt < b.priority.toInt ∨ a.priority.toInt = b.priority.toInt ∧ a.seq ≤ b.seq := by
  simp only [QueuedLaunch.before, Bool.not_eq_true', Bool.or_eq_false_iff, decide_eq_false_iff_not,
    Bool.and_eq_false_iff, Int32.lt_iff_toInt_lt, ← Int32.toInt_inj]
  omega

theorem sorted_entries (q : AdmissionQueue) :
    q.entries.Pairwise fun a b => (!b.before a) = true := by
  apply List.pairwise_mergeSort
  · intro a b c hab hbc
    rw [not_before_iff] at hab hbc ⊢
    omega
  · intro a b
    rw [Bool.or_eq_true, not_before_iff, not_before_iff]
    omega

theorem entries_perm (q : AdmissionQueue) : q.entries ~ q.heap.toList := List.mergeSort_perm ..

@[simp] theorem entries_empty : empty.entries = [] := by
  simp [entries, empty]

@[simp] theorem requeue_nextSeq (q : AdmissionQueue) (launch : QueuedLaunch) :
    (q.requeue launch).nextSeq = q.nextSeq := rfl

theorem requeue_entries (q : AdmissionQueue) (launch : QueuedLaunch) :
    (q.requeue launch).entries ~ launch :: q.entries :=
  calc (q.requeue launch).entries
    _ ~ (q.requeue launch).heap.toList := entries_perm _
    _ ~ launch :: q.heap.toList := Heap.push_perm QueuedLaunch.before q.heap launch
    _ ~ launch :: q.entries := (entries_perm q).symm.cons launch

@[simp] theorem enqueue_nextSeq (q : AdmissionQueue) (id : UnitId) (task : LaunchTask)
    (priority : Int32) : (q.enqueue id task priority).2.nextSeq = q.nextSeq + 1 := rfl

theorem enqueue_entries (q : AdmissionQueue) (id : UnitId) (task : LaunchTask)
    (priority : Int32) :
    (q.enqueue id task priority).2.entries ~ ⟨id, task, priority, q.nextSeq⟩ :: q.entries :=
  requeue_entries { q with nextSeq := q.nextSeq + 1 } ⟨id, task, priority, q.nextSeq⟩

theorem pop?_entries {q rest : AdmissionQueue} {launch : QueuedLaunch}
    (h : q.pop? = some (launch, rest)) :
    q.entries ~ launch :: rest.entries ∧ rest.nextSeq = q.nextSeq := by
  obtain ⟨⟨first, heap⟩, hp, he⟩ := Option.map_eq_some_iff.1 h
  cases he
  refine ⟨?_, rfl⟩
  calc q.entries
    _ ~ q.heap.toList := entries_perm q
    _ ~ launch :: heap.toList := Heap.pop?_perm QueuedLaunch.before hp
    _ ~ launch :: entries { q with heap } := (entries_perm { q with heap }).symm.cons launch

theorem remove?_entries {q rest : AdmissionQueue} {id : UnitId} {launch : QueuedLaunch}
    (h : q.remove? id = some (launch, rest)) :
    launch.unitId = id ∧ q.entries ~ launch :: rest.entries ∧ rest.nextSeq = q.nextSeq := by
  obtain ⟨⟨found, heap⟩, hr, he⟩ := Option.map_eq_some_iff.1 h
  cases he
  obtain ⟨hid, hperm⟩ := Heap.remove?_perm QueuedLaunch.before hr
  refine ⟨of_decide_eq_true hid, ?_, rfl⟩
  calc q.entries
    _ ~ q.heap.toList := entries_perm q
    _ ~ launch :: heap.toList := hperm
    _ ~ launch :: entries { q with heap } := (entries_perm { q with heap }).symm.cons launch

theorem remove?_eq_none {q : AdmissionQueue} {id : UnitId} (h : q.remove? id = none) :
    ∀ launch ∈ q.entries, launch.unitId ≠ id := by
  intro launch hl
  have := Heap.remove?_eq_none QueuedLaunch.before (Option.map_eq_none_iff.1 h) launch
    ((entries_perm q).mem_iff.1 hl)
  exact of_decide_eq_false this

/-- Launches with numbers of their own have one order only. -/
theorem entries_eq_of_sorted {q : AdmissionQueue} {launches : List QueuedLaunch}
    (numbered : (q.entries.map (·.seq)).Nodup) (same : q.entries ~ launches)
    (sorted : launches.Pairwise fun a b => (!b.before a) = true) : q.entries = launches := by
  refine List.Perm.eq_of_pairwise ?_ q.sorted_entries sorted same
  intro a b ha hb hab hba
  have seq : a.seq = b.seq := by
    rw [not_before_iff] at hab hba
    omega
  exact List.inj_on_of_nodup_map numbered ha (same.mem_iff.2 hb) seq

theorem entries_eq_of_perm {q q' : AdmissionQueue} (numbered : (q.entries.map (·.seq)).Nodup)
    (same : q.entries ~ q'.entries) : q.entries = q'.entries :=
  entries_eq_of_sorted numbered same q'.sorted_entries

theorem entries_requeue_remove {q rest : AdmissionQueue} {id : UnitId} {launch : QueuedLaunch}
    (numbered : (q.entries.map (·.seq)).Nodup) (h : q.remove? id = some (launch, rest)) :
    (rest.requeue launch).entries = q.entries ∧ (rest.requeue launch).nextSeq = q.nextSeq := by
  obtain ⟨_, taken, seq⟩ := remove?_entries h
  have back : q.entries ~ (rest.requeue launch).entries :=
    taken.trans (requeue_entries rest launch).symm
  exact ⟨(entries_eq_of_perm numbered back).symm, seq⟩

end BuildAdmission.AdmissionQueue
