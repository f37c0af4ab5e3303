import BuildAdmission.Proofs.Session.Commission
import BuildAdmission.Proofs.Session.Completion
import BuildAdmission.Proofs.Session.Frame
import BuildAdmission.Scheduler.Report
import Mathlib.Data.List.Perm.Lattice

namespace BuildAdmission

open scoped List

namespace AdmissionQueue

variable {q : AdmissionQueue}

/-- The launches as they are taken from the queue, one after the other. -/
inductive Drains : AdmissionQueue → List QueuedLaunch → Prop
  | empty {q : AdmissionQueue} (nothing : q.pop? = none) : Drains q []
  | pop {q rest : AdmissionQueue} {launch launches} (first : q.pop? = some (launch, rest))
      (more : Drains rest launches) : Drains q (launch :: launches)

/-- The queue is listed in the order in which it is drained. -/
theorem InOrder.drains (ordered : q.InOrder) (numbered : (q.entries.map (·.seq)).Nodup) :
    q.Drains q.entries := by
  generalize listed : q.entries = launches
  induction launches generalizing q with
  | nil => exact .empty (pop?_eq_none_iff.2 listed)
  | cons l launches ih =>
      cases pop : q.pop? with
      | none => cases listed.symm.trans (pop?_eq_none_iff.1 pop)
      | some taken =>
          obtain ⟨launch, rest⟩ := taken
          have first := ordered.entries_pop? numbered pop
          rw [first] at numbered
          obtain ⟨rfl, listed⟩ := List.cons.inj (listed.symm.trans first)
          exact .pop pop (ih (ordered.pop? pop) (List.nodup_cons.1 numbered).2 listed.symm)

end AdmissionQueue

/-- The list in which a unit of that status stands. -/
def StatusSummary.of (S : StatusSummary) : Status → List UnitId
  | .pending => S.pending
  | .queued => S.queued
  | .running => S.active
  | .checkpointed => S.checkpointed
  | .complete => S.completed
  | .failed => S.failed

/-- Every live unit stands in the list of its status, once, and in no other. -/
structure StatusSummary.Partitions (S : StatusSummary) (g : Graph) : Prop where
  mem : ∀ status id, id ∈ S.of status ↔ ∃ u, g.unit? id = some u ∧ u.status = status
  once : (Status.all.flatMap S.of).Nodup
  known : ∀ id ∈ Status.all.flatMap S.of, g.archived.find? id = none
  ascending : ∀ status, status ≠ .queued → (S.of status).Pairwise (· < ·)

namespace Scheduler

variable {s : Scheduler} {id : UnitId}

theorem summary_queued (kept : s.Kept) : s.summary.queued = s.queue.entries.map (·.unitId) := by
  refine List.filter_eq_self.2 fun id hid => ?_
  obtain ⟨l, hl, rfl⟩ := List.mem_map.1 hid
  obtain ⟨u, live, queued, _⟩ := kept.taken hl
  simp [hasStatus, live, queued]

theorem mem_withStatus (kept : s.Kept) {status : Status} :
    id ∈ s.withStatus status ↔ ∃ u, s.graph.unit? id = some u ∧ u.status = status := by
  simp only [withStatus, List.mem_map, List.mem_filter, decide_eq_true_eq, Graph.mem_live_values]
  constructor
  · rintro ⟨u, ⟨⟨k, live⟩, status⟩, rfl⟩
    cases kept.keyed.live k u live
    exact ⟨u, live, status⟩
  · rintro ⟨u, live, status⟩
    exact ⟨u, ⟨⟨id, live⟩, status⟩, kept.keyed.live id u live⟩

theorem ascending_withStatus (kept : s.Kept) (status : Status) :
    (s.withStatus status).Pairwise (· < ·) := by
  have sub : (s.withStatus status).Sublist s.graph.live.keys := by
    rw [← IdMap.map_values_eq_keys kept.keyed.live]
    exact List.filter_sublist.map _
  exact (List.pairwise_map.2 s.graph.live.ascending).sublist sub

theorem mem_summary (kept : s.Kept) (status : Status) (id : UnitId) :
    id ∈ s.summary.of status ↔ ∃ u, s.graph.unit? id = some u ∧ u.status = status := by
  cases status with
  | running => exact IdMap.mem_keys_iff.trans kept.running_iff
  | queued =>
      rw [StatusSummary.of, summary_queued kept, List.mem_map]
      constructor
      · rintro ⟨l, hl, rfl⟩
        obtain ⟨u, live, queued, _⟩ := kept.taken hl
        exact ⟨u, live, queued⟩
      · rintro ⟨u, live, queued⟩
        obtain ⟨l, hl, named, _⟩ := (kept.queue.waiting id u.priority).2
          (Graph.standing_queued_iff.2 ⟨u, live, queued, rfl⟩)
        exact ⟨l, hl, named⟩
  | pending | checkpointed | complete | failed => exact mem_withStatus kept

theorem nodup_summary (kept : s.Kept) (status : Status) : (s.summary.of status).Nodup := by
  have distinct {ids : List UnitId} (ascending : ids.Pairwise (· < ·)) : ids.Nodup :=
    ascending.imp fun h => String.ne_of_lt h
  cases status with
  | running => exact s.running.nodup_keys
  | queued =>
      rw [StatusSummary.of, summary_queued kept]
      exact kept.queue.once
  | pending | checkpointed | complete | failed => exact distinct (ascending_withStatus kept _)

theorem partitions_summary (kept : s.Kept) (built : s.graph.Built) :
    s.summary.Partitions s.graph where
  mem := mem_summary kept
  once := by
    refine List.nodup_flatMap.2 ⟨fun status _ => nodup_summary kept status, ?_⟩
    refine List.Pairwise.imp ?_ (show Status.all.Pairwise (· ≠ ·) by decide)
    intro status status' distinct id first second
    obtain ⟨u, live, rfl⟩ := (mem_summary kept status id).1 first
    obtain ⟨v, live', rfl⟩ := (mem_summary kept status' id).1 second
    cases live.symm.trans live'
    exact distinct rfl
  known id hid := by
    obtain ⟨status, _, hid⟩ := List.mem_flatMap.1 hid
    obtain ⟨u, live, _⟩ := (mem_summary kept status id).1 hid
    exact built.apart id u live
  ascending status other := by
    cases status with
    | queued => exact absurd rfl other
    | running => exact List.pairwise_map.2 s.running.ascending
    | pending | checkpointed | complete | failed => exact ascending_withStatus kept _

/-- The unit waits with that priority, at that place in the summary. Before it stand the other units
that wait with its priority or go first. -/
structure Stands (s : Scheduler) (id : UnitId) (priority : Int32) (position : Nat) : Prop where
  listed : s.summary.queued[position]? = some id
  waits : ∃ u, s.graph.unit? id = some u ∧ u.status = .queued ∧ u.priority = priority
  behind : position = (s.graph.live.values.filter fun v =>
    v.status = .queued ∧ v.id ≠ id ∧ v.priority ≤ priority).length

/-- The launches that wait are counted by their units. -/
theorem Kept.length_waiting (kept : s.Kept) (p : UnitId → Int32 → Prop)
    [∀ id priority, Decidable (p id priority)] :
    (s.queue.entries.filter fun l => p l.unitId l.priority).length =
      (s.graph.live.values.filter fun u => u.status = .queued ∧ p u.id u.priority).length := by
  have same : (s.queue.entries.filter fun l => p l.unitId l.priority).map (·.unitId) ~
      (s.graph.live.values.filter fun u => u.status = .queued ∧ p u.id u.priority).map (·.id) := by
    refine (List.perm_ext_iff_of_nodup ?_ ?_).2 fun id => ?_
    · exact kept.queue.once.sublist (List.filter_sublist.map _)
    · exact List.Nodup.sublist (List.filter_sublist.map _)
        (List.pairwise_map.2 kept.keyed.pairwise_values)
    · simp only [List.mem_map, List.mem_filter, decide_eq_true_eq, Graph.mem_live_values]
      constructor
      · rintro ⟨l, ⟨hl, passes⟩, rfl⟩
        obtain ⟨u, live, queued, same⟩ := kept.taken hl
        have named := kept.keyed.live _ u live
        exact ⟨u, ⟨⟨_, live⟩, queued, by rwa [named, same]⟩, named⟩
      · rintro ⟨u, ⟨⟨k, live⟩, queued, passes⟩, rfl⟩
        cases kept.keyed.live k u live
        obtain ⟨l, hl, named, same⟩ := (kept.queue.waiting u.id u.priority).2
          (Graph.standing_queued_iff.2 ⟨u, live, queued, rfl⟩)
        exact ⟨l, ⟨hl, by rwa [named, same]⟩, named⟩
  simpa using same.length_eq

end Scheduler

namespace Op

open Session

variable {σ : Type} [Storage σ]

/-- The answer to a request that has to wait is the place of its launch in the queue. -/
theorem requestLaunch_position {id : UnitId} {task : LaunchTask} {priority : Int32}
    {position : Nat} {s t : Session σ}
    (h : (requestLaunch id task priority).run s = (.ok (.queued position), t)) :
    position = (t.scheduler.queue.position? id).getD 0 := by
  cases live : s.scheduler.graph.unit? id with
  | none =>
      rw [requestLaunch, run_bind_ok (run_scheduler s), run_bind, run_liftM,
        Graph.get_eq_error live] at h
      cases h
  | some u =>
      rw [run_requestLaunch live] at h
      split at h
      · simp only at h
        split at h
        · cases h
        · cases h
        · split at h
          · cases h
            rfl
          · split at h <;> cases h
      · cases h

end Op

namespace Session

variable {σ : Type} [Storage σ] {s t : Session σ} {calls : List (Call σ)} {id : UnitId}
  {task : LaunchTask} {priority : Int32} {position : Nat}

/-- A new launch stands behind all that have its priority or go first. -/
theorem call_queued (kept : t.scheduler.Kept) (answered :
      (t.call (.requestLaunch id task priority)).answer = .ok (.launched (.queued position))) :
    ∃ u front back new,
      (t.call (.requestLaunch id task priority)).after.scheduler.graph.unit? id = some u ∧
      u.status = .queued ∧ u.priority = priority ∧ new.unitId = id ∧
      (t.call (.requestLaunch id task priority)).after.scheduler.queue.entries =
        front ++ new :: back ∧
      (∀ l ∈ front, l.priority ≤ priority) ∧ ∀ l ∈ back, ¬ l.priority ≤ priority := by
  obtain ⟨answer, es, launched, answered', trace⟩ := perform_requestLaunch id task priority t
  obtain ⟨outcome, rfl, queued⟩ := Except.map_eq_ok_iff.1 (answered'.symm.trans answered)
  cases queued
  cases launched
  obtain ⟨before, after, u, first, second, last, live, same, _⟩ := trace.prioritised
  have kept' := first.kept kept
  generalize (t.call (.requestLaunch id task priority)).after = n at last
  cases last with
  | cons flushed done =>
      cases done
      cases flushed
      cases second with
      | enqueue live' idle gate full behind =>
          cases live.symm.trans live'
          refine ⟨{ u with status := .queued }, _, _, _, Graph.unit?_update_self live, rfl, same, ?_,
            AdmissionQueue.entries_enqueue kept'.queue.numbered kept'.queue.issued .., ?_, ?_⟩
          · rfl
          · intro l hl
            rw [← same]
            exact of_decide_eq_true (List.mem_filter.1 hl).2
          · intro l hl
            rw [← same]
            simpa using (List.mem_filter.1 hl).2

theorem call_stands (kept : t.scheduler.Kept) (answered :
      (t.call (.requestLaunch id task priority)).answer = .ok (.launched (.queued position))) :
    (t.call (.requestLaunch id task priority)).after.scheduler.Stands id priority position := by
  obtain ⟨es, trace⟩ := call_trace t (.requestLaunch id task priority)
  have kept' := trace.kept kept
  obtain ⟨u, front, back, new, live, queued, same, named, listed, early, late⟩ :=
    call_queued kept answered
  have apart (l : QueuedLaunch) (hl : l ∈ front) : l.unitId ≠ id := by
    have once := kept'.queue.once
    rw [listed, List.map_append, List.nodup_append] at once
    exact named ▸ once.2.2 _ (List.mem_map_of_mem hl) _ (by simp)
  have place : position = front.length := by
    obtain ⟨outcome, hrun, queued⟩ := Op.run_map_eq_ok_iff.1 (Prod.ext answered rfl)
    cases queued
    have found := AdmissionQueue.position?_append listed (named ▸ apart)
    rw [named] at found
    exact (Op.requestLaunch_position hrun).trans (congrArg (·.getD 0) found)
  have others : (front ++ new :: back).filter
      (fun l => l.unitId ≠ id ∧ l.priority ≤ priority) = front := by
    have stay : front.filter (fun l => l.unitId ≠ id ∧ l.priority ≤ priority) = front :=
      List.filter_eq_self.2 fun l hl => by simp [apart l hl, early l hl]
    have leave : back.filter (fun l => l.unitId ≠ id ∧ l.priority ≤ priority) = [] :=
      List.filter_eq_nil_iff.2 fun l hl => by simp [late l hl]
    rw [List.filter_append, List.filter_cons, stay, leave]
    simp [named]
  refine ⟨?_, ⟨u, live, queued, same⟩, ?_⟩
  · rw [Scheduler.summary_queued kept', listed, place]
    simp [named]
  · rw [← kept'.length_waiting fun k p => k ≠ id ∧ p ≤ priority, listed, others, place]

/-- The summary tells exactly how the live units stand: each is in the list of its status and in no
other. Those that wait are listed as they will be taken from the queue, and a request that has to
wait is told the place of its unit among them. No more units are active than there are slots. -/
theorem Run.summary_partitions (run : Run s calls t) (opened : Opened s) :
    let S := t.scheduler.summary
    S.Partitions t.scheduler.graph ∧
      (∃ launches, t.scheduler.queue.Drains launches ∧ S.queued = launches.map (·.unitId) ∧
        launches.Pairwise fun a b => a.priority < b.priority ∨
          a.priority = b.priority ∧ a.seq < b.seq) ∧
      (S.active.length = t.scheduler.activeCount ∧ S.active.length ≤ S.concurrencyLimit.toNat) ∧
      ∀ id task priority position,
        (t.call (.requestLaunch id task priority)).answer = .ok (.launched (.queued position)) →
        (t.call (.requestLaunch id task priority)).after.scheduler.Stands id priority position := by
  have kept := run.kept opened
  have numbered := kept.queue.numbered
  refine ⟨Scheduler.partitions_summary kept (run.built opened),
    ⟨_, (run.inOrder opened).drains numbered, Scheduler.summary_queued kept,
      AdmissionQueue.entries_strict numbered⟩,
    ⟨IdMap.length_keys _, (IdMap.length_keys _).trans_le kept.slots.bounded⟩, ?_⟩
  exact fun id task priority position => call_stands kept

/-- `lib` has the only slot and `tool` waits when `app` is asked for, which goes first. -/
def waitingCalls : List Command := blockedCalls.take 5

theorem summary_partitions_waiting : ∃ t : Session Vault,
    Run narrow (narrow.callsOf waitingCalls) t ∧
    t.scheduler.summary = ⟨["lib"], ["tool"], [], [], ["app"], [], 1⟩ ∧
    t.scheduler.summary.Partitions t.scheduler.graph ∧
    (t.call (.requestLaunch "app" ⟨"build", 1000⟩ 1)).after.scheduler.Stands "app" 1 0 := by
  have run := run_callAll narrow waitingCalls
  have summary : (narrow.callAll waitingCalls).scheduler.summary =
      ⟨["lib"], ["tool"], [], [], ["app"], [], 1⟩ := by decide +kernel
  have waits : Answer.status? ((narrow.callAll waitingCalls).call
      (.requestLaunch "app" ⟨"build", 1000⟩ 1)).answer = some .queued := by decide +kernel
  obtain ⟨position, answered⟩ := Answer.status?_eq_queued waits
  obtain ⟨partitions, _, _, stands⟩ := run.summary_partitions opened_narrow
  have stands := stands _ _ _ _ answered
  have first : position = 0 := stands.behind.trans (by decide +kernel)
  exact ⟨_, run, summary, partitions, first ▸ stands⟩

end Session

end BuildAdmission
