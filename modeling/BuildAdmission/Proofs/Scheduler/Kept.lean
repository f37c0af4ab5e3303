import BuildAdmission.Proofs.Scheduler.Bookkeeping

namespace BuildAdmission

/-- The three books of a scheduler, its units, its slots and its queue, say the same. -/
structure Scheduler.Coherent (s : Scheduler) : Prop where
  keyed : s.graph.Keyed
  bounded : s.running.size ≤ s.limits.concurrency.toNat
  running : ∀ id, id ∈ s.running.keys ↔ ∃ u, s.graph.unit? id = some u ∧ u.status = .running
  once : (s.queue.entries.map (·.unitId)).Nodup
  queued : ∀ id, id ∈ s.queue.entries.map (·.unitId) ↔
    ∃ u, s.graph.unit? id = some u ∧ u.status = .queued
  priorities : ∀ l ∈ s.queue.entries, ∀ u, s.graph.unit? l.unitId = some u → l.priority = u.priority
  numbered : (s.queue.entries.map (·.seq)).Nodup ∧
    ∀ l ∈ s.queue.entries, l.seq < s.queue.nextSeq
  tickets : (s.running.values.map (·.ticket)).Nodup ∧
    ∀ r ∈ s.running.values, r.ticket < s.nextTicket

namespace Scheduler

open scoped List

variable {s : Scheduler} {limits : Limits} {budget : Budget} {id : UnitId} {u : WorkUnit}

/-- The same by what the slots and the queue know of the units. -/
structure Kept (s : Scheduler) : Prop where
  keyed : s.graph.Keyed
  slots : SlotsMatch s.graph.standing s.running s.limits.concurrency.toNat s.nextTicket
  queue : QueueMatches s.graph.standing s.queue.entries s.queue.nextSeq

/-- The units that run are those that hold a slot. -/
theorem Kept.running_iff (h : s.Kept) :
    (∃ r, s.running.find? id = some r) ↔
      ∃ u, s.graph.unit? id = some u ∧ u.status = .running := by
  rw [h.slots.held]
  simp only [Graph.standing_running_iff]
  constructor
  · rintro ⟨_, u, live, status, _⟩
    exact ⟨u, live, status⟩
  · rintro ⟨u, live, status⟩
    exact ⟨u.priority, u, live, status, rfl⟩

theorem Kept.coherent (h : s.Kept) : s.Coherent := by
  refine ⟨h.keyed, h.slots.bounded, ?_, h.queue.once, ?_, ?_, ⟨h.queue.numbered, h.queue.issued⟩,
    ?_, ?_⟩
  · intro id
    rw [IdMap.mem_keys_iff, h.running_iff]
  · intro id
    rw [List.mem_map]
    constructor
    · rintro ⟨l, hl, rfl⟩
      obtain ⟨u, live, status, _⟩ :=
        Graph.standing_queued_iff.1 ((h.queue.waiting _ _).1 ⟨l, hl, rfl, rfl⟩)
      exact ⟨u, live, status⟩
    · rintro ⟨u, live, status⟩
      obtain ⟨l, hl, hid, _⟩ :=
        (h.queue.waiting _ _).2 (Graph.standing_queued_iff.2 ⟨u, live, status, rfl⟩)
      exact ⟨l, hl, hid⟩
  · intro l hl u live
    obtain ⟨v, hv, _, hp⟩ := Graph.standing_queued_iff.1 ((h.queue.waiting _ _).1 ⟨l, hl, rfl, rfl⟩)
    cases live.symm.trans hv
    exact hp.symm
  · rw [IdMap.values, List.map_map, List.nodup_map_iff_inj_on s.running.nodup_entries]
    rintro ⟨id, r⟩ he ⟨id', r'⟩ he' same
    have hr := IdMap.find?_eq_some_iff.2 he
    have hr' := IdMap.find?_eq_some_iff.2 he'
    cases h.slots.distinct id id' r r' hr hr' same
    cases hr.symm.trans hr'
    rfl
  · intro r hr
    obtain ⟨id, hid⟩ := IdMap.mem_values_iff.1 hr
    exact h.slots.issued id r hid

theorem new_eq_ok (h : new limits budget = .ok s) : s = ⟨limits, .empty, budget, .empty, ∅, 1⟩ := by
  obtain ⟨⟨⟩, _, hs⟩ := Except.bind_eq_ok_iff.1 h
  exact (Except.ok.inj hs).symm

theorem check_of_new (h : new limits budget = .ok s) : s.limits.check = .ok () := by
  obtain ⟨⟨⟩, valid, hs⟩ := Except.bind_eq_ok_iff.1 h
  cases hs
  exact valid

theorem concurrency_pos (valid : limits.check = .ok ()) : 0 < limits.concurrency.toNat := by
  refine Nat.pos_of_ne_zero fun none => ?_
  have zero : limits.concurrency = 0 := UInt64.toNat_inj.1 none
  simp [Limits.check, zero] at valid

/-- An edit that the slots and the queue do not notice. -/
theorem Kept.edit (h : s.Kept) {graph : Graph} (keyed : graph.Keyed)
    (same : graph.standing = s.graph.standing) : { s with graph }.Kept :=
  ⟨keyed, same ▸ h.slots, same ▸ h.queue⟩

/-- A unit that neither runs nor waits may go, or stay at rest. -/
theorem Kept.rest (h : s.Kept) {graph : Graph} (keyed : graph.Keyed)
    (rests : graph.standing = Function.update s.graph.standing id none)
    (idle : ∀ p, s.graph.standing id ≠ some (.running, p))
    (free : ∀ p, s.graph.standing id ≠ some (.queued, p)) : { s with graph }.Kept := by
  refine ⟨keyed, ?_, ?_⟩
  · rw [rests]
    exact h.slots.update idle (by simp)
  · rw [rests]
    exact h.queue.update free (by simp)

theorem standing_setStatus (live : s.graph.unit? id = some u) (status : Status) :
    (s.setStatus id status).graph.standing =
      Function.update s.graph.standing id { u with status }.standing :=
  Graph.standing_update live

theorem Kept.start (h : s.Kept) (live : s.graph.unit? id = some u)
    (idle : u.status.isActive = false) (room : s.isFull = false) (task : LaunchTask) (now : Nat) :
    (s.start id task now).Kept := by
  have rests := Graph.standing_of_rest live idle
  have runs := standing_setStatus live .running
  refine ⟨h.keyed.update fun _ => rfl, ?_, ?_⟩
  · have room : s.running.size < s.limits.concurrency.toNat := by simpa [isFull] using room
    exact runs ▸ h.slots.start room (by simp [rests]) u.priority task now
  · exact runs ▸ h.queue.update (by simp [rests]) (by simp [WorkUnit.standing, Status.isActive])

theorem Kept.enqueue (h : s.Kept) (live : s.graph.unit? id = some u)
    (idle : u.status.isActive = false) (task : LaunchTask) :
    (s.enqueue id task u.priority).Kept := by
  have rests := Graph.standing_of_rest live idle
  have waits := standing_setStatus live .queued
  refine ⟨h.keyed.update fun _ => rfl, ?_, ?_⟩
  · exact waits ▸ h.slots.update (by simp [rests]) (by simp [WorkUnit.standing, Status.isActive])
  · exact waits ▸ (h.queue.join (by simp [rests]) u.priority task).perm
      (AdmissionQueue.enqueue_entries s.queue id task u.priority).symm

theorem Kept.release (h : s.Kept) (live : s.graph.unit? id = some u) (runs : u.status = .running)
    {status : Status} (after : status.isActive = false) : (s.release id status).Kept := by
  have rests : (s.setStatus id status).graph.standing =
      Function.update s.graph.standing id none := by
    rw [standing_setStatus live, WorkUnit.standing_eq_none after]
  have hstanding := Graph.standing_running_iff.2 ⟨u, live, runs, rfl⟩
  refine ⟨h.keyed.update fun _ => rfl, ?_, ?_⟩
  · exact rests ▸ h.slots.release (by simp)
  · exact rests ▸ h.queue.update (by simp [hstanding]) (by simp)

theorem Kept.taken (h : s.Kept) {launch : QueuedLaunch} (hl : launch ∈ s.queue.entries) :
    ∃ u, s.graph.unit? launch.unitId = some u ∧ u.status = .queued ∧ u.priority = launch.priority :=
  Graph.standing_queued_iff.1 ((h.queue.waiting _ _).1 ⟨launch, hl, rfl, rfl⟩)

theorem Kept.withdraw (h : s.Kept) {launch : QueuedLaunch} {queue : AdmissionQueue}
    (taken : s.queue.entries ~ launch :: queue.entries ∧ queue.nextSeq = s.queue.nextSeq) :
    { s.setStatus launch.unitId .pending with queue }.Kept := by
  obtain ⟨u, live, status, _⟩ := h.taken (taken.1.mem_iff.2 List.mem_cons_self)
  have rests : (s.setStatus launch.unitId .pending).graph.standing =
      Function.update s.graph.standing launch.unitId none := standing_setStatus live .pending
  have hstanding := Graph.standing_queued_iff.2 ⟨u, live, status, rfl⟩
  refine ⟨h.keyed.update fun _ => rfl, ?_, ?_⟩
  · exact rests ▸ h.slots.update (by simp [hstanding]) (by simp)
  · rw [rests, taken.2]
    exact (h.queue.perm taken.1).leave (by simp)

theorem Kept.requeue (h : s.Kept) {launch : QueuedLaunch} {queue : AdmissionQueue}
    (taken : s.queue.entries ~ launch :: queue.entries ∧ queue.nextSeq = s.queue.nextSeq) :
    { s with queue := queue.requeue launch }.Kept := by
  refine ⟨h.keyed, h.slots, ?_⟩
  simp only [AdmissionQueue.requeue_nextSeq, taken.2]
  exact h.queue.perm (taken.1.trans (AdmissionQueue.requeue_entries queue launch).symm)

theorem Kept.setStatus_back (h : s.Kept) {launch : QueuedLaunch} (hl : launch ∈ s.queue.entries) :
    (s.setStatus launch.unitId .pending).setStatus launch.unitId .queued = s := by
  obtain ⟨u, live, status, _⟩ := h.taken hl
  have back : (s.graph.setStatus launch.unitId .pending).setStatus launch.unitId .queued = s.graph :=
    Graph.setStatus_setStatus_self fun v hv => by
      cases live.symm.trans hv
      exact status
  simp only [setStatus, back]

theorem ne_running (live : s.graph.unit? id = some u) (idle : u.status ≠ .running) (p : Int32) :
    s.graph.standing id ≠ some (.running, p) := by
  intro runs
  obtain ⟨v, hv, status, _⟩ := Graph.standing_running_iff.1 runs
  cases live.symm.trans hv
  exact idle status

theorem Kept.no_slot (h : s.Kept) (live : s.graph.unit? id = some u) (idle : u.status ≠ .running) :
    s.running.find? id = none := by
  cases slot : s.running.find? id with
  | none => rfl
  | some r =>
      obtain ⟨v, hv, runs⟩ := h.running_iff.1 ⟨r, slot⟩
      cases live.symm.trans hv
      exact absurd runs idle

theorem Kept.ne_queued (h : s.Kept) (live : s.graph.unit? id = some u)
    (free : u.status ≠ .queued ∨ ∀ l ∈ s.queue.entries, l.unitId ≠ id) (p : Int32) :
    s.graph.standing id ≠ some (.queued, p) := by
  rcases free with free | free
  · intro waits
    obtain ⟨v, hv, status, _⟩ := Graph.standing_queued_iff.1 waits
    cases live.symm.trans hv
    exact free status
  · exact h.queue.ne_queued free p

theorem start_withdrawn (s : Scheduler) (queue : AdmissionQueue) (id : UnitId) (status : Status)
    (task : LaunchTask) (now : Nat) :
    { s.setStatus id status with queue }.start id task now = { s with queue }.start id task now := by
  simp only [start, setStatus, Graph.setStatus, Graph.update_update]
  rfl

theorem Kept.promote (h : s.Kept) {launch : QueuedLaunch} {queue : AdmissionQueue}
    (taken : s.queue.entries ~ launch :: queue.entries ∧ queue.nextSeq = s.queue.nextSeq)
    (live : s.graph.unit? launch.unitId = some u) (room : s.isFull = false) (task : LaunchTask)
    (now : Nat) : ({ s with queue }.start launch.unitId task now).Kept := by
  -- The unit starts as if it had been withdrawn first.
  rw [← start_withdrawn s queue launch.unitId .pending]
  exact (h.withdraw taken).start (Graph.unit?_update_self live) rfl room task now

/-- A failed unit goes back to the queue for another try. -/
def retry (s : Scheduler) (id : UnitId) (attempt : UInt32) (task : LaunchTask)
    (priority : Int32) : Scheduler :=
  let s := s.release id .queued
  let s := { s with graph := s.graph.update id fun u => { u with retryCount := attempt } }
  s.enqueue id task priority

theorem retry_eq (s : Scheduler) (id : UnitId) (attempt : UInt32) (task : LaunchTask)
    (priority : Int32) : s.retry id attempt task priority =
      ({ s.release id .pending with
        graph := (s.release id .pending).graph.update id fun u =>
          { u with retryCount := attempt } }).enqueue id task priority := by
  simp only [retry, release, enqueue, setStatus, Graph.setStatus, Graph.update_update]
  rfl

theorem Kept.retry (h : s.Kept) (live : s.graph.unit? id = some u) (runs : u.status = .running)
    (attempt : UInt32) (task : LaunchTask) : (s.retry id attempt task u.priority).Kept := by
  rw [retry_eq]
  have released := h.release live runs (rfl : Status.pending.isActive = false)
  have keyed : ((s.release id .pending).graph.update id fun u =>
      { u with retryCount := attempt }).Keyed := released.keyed.update fun _ => rfl
  have noted := released.edit keyed (Graph.standing_update_of_eq fun _ _ => rfl)
  exact noted.enqueue (Graph.unit?_update_self (Graph.unit?_update_self live)) rfl task

end Scheduler

end BuildAdmission
