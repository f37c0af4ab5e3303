import BuildAdmission.Proofs.Session.Refusal

namespace BuildAdmission

namespace Session

variable {σ : Type} {m n s t : Session σ} {e : Event} {es : List Event} {calls : List (Call σ)}
  {good : σ → Prop} {stored : σ → UnitId → List Checkpoint} {c : Command}

/-- The units, the queue as it will be served, the slots and their tickets, the budget and the
stored checkpoints are the same in both. -/
structure Untouched (stored : σ → UnitId → List Checkpoint) (m n : Session σ) : Prop where
  graph : n.scheduler.graph = m.scheduler.graph
  entries : n.scheduler.queue.entries = m.scheduler.queue.entries
  nextSeq : n.scheduler.queue.nextSeq = m.scheduler.queue.nextSeq
  running : n.scheduler.running = m.scheduler.running
  nextTicket : n.scheduler.nextTicket = m.scheduler.nextTicket
  budget : n.scheduler.budget = m.scheduler.budget
  limits : n.scheduler.limits = m.scheduler.limits
  stored : stored n.storage = stored m.storage

theorem Untouched.refl (m : Session σ) : Untouched stored m m := by
  constructor <;> rfl

theorem Untouched.trans (h : Untouched stored s m) (h' : Untouched stored m n) :
    Untouched stored s n where
  graph := h'.graph.trans h.graph
  entries := h'.entries.trans h.entries
  nextSeq := h'.nextSeq.trans h.nextSeq
  running := h'.running.trans h.running
  nextTicket := h'.nextTicket.trans h.nextTicket
  budget := h'.budget.trans h.budget
  limits := h'.limits.trans h.limits
  stored := h'.stored.trans h.stored

theorem Untouched.withStorage {storage : σ} (h : stored storage = stored m.storage) :
    Untouched stored m (m.withStorage storage) := by
  constructor <;> first | rfl | exact h

/-- A session in which a unit has another priority. -/
def reprioritise (s : Session σ) (id : UnitId) (priority : Int32) : Session σ :=
  s.change fun s => { s with graph := s.graph.update id fun u => { u with priority } }

variable [Storage σ]

open Storage

theorem Step.untouched (careful : Careful good stored) (h : Step m e n) (kept : m.scheduler.Kept)
    (hm : good m.storage) (idle : e.isIdle = true) : good n.storage ∧ Untouched stored m n := by
  cases h with
  | reinstate live idle found =>
      obtain ⟨rfl, taken, _⟩ := AdmissionQueue.remove?_entries found
      have back := kept.setStatus_back (taken.mem_iff.2 List.mem_cons_self)
      obtain ⟨entries, nextSeq⟩ := AdmissionQueue.entries_requeue_remove kept.queue.numbered found
      refine ⟨hm, ?_⟩
      rw [change, back]
      constructor <;> first | rfl | exact entries | exact nextSeq
  | unread read =>
      obtain ⟨hgood, same⟩ := careful.read read hm
      exact ⟨hgood, .withStorage same⟩
  | unsaved read saved =>
      obtain ⟨hgood, same⟩ := careful.read read hm
      obtain ⟨hgood', same'⟩ := careful.saved saved hgood
      exact ⟨hgood', .withStorage ((same' _ rfl).trans same)⟩
  | flush =>
      have := careful.flush m.storage m.scheduler.graph.records hm
      exact ⟨this.1, .withStorage this.2⟩
  | _ => cases idle

theorem Trace.untouched (careful : Careful good stored) (h : Trace m es n)
    (kept : m.scheduler.Kept) (hm : good m.storage) (idle : ∀ e ∈ es, e.isIdle = true) :
    good n.storage ∧ Untouched stored m n := by
  induction h with
  | nil => exact ⟨hm, .refl _⟩
  | cons step rest ih =>
      obtain ⟨hgood, same⟩ := step.untouched careful kept hm (idle _ List.mem_cons_self)
      obtain ⟨hgood', same'⟩ := ih (step.kept kept) hgood fun e he =>
        idle e (List.mem_cons_of_mem _ he)
      exact ⟨hgood', same.trans same'⟩

/-! ### A storage stays good -/

theorem Step.keeps_good (careful : Careful good stored) (h : Step m e n) (hm : good m.storage) :
    good n.storage := by
  have touch := h.touch
  generalize n.storage = v at touch
  cases touch with
  | untouched => exact hm
  | read read => exact (careful.read read hm).1
  | saved read saved => exact (careful.saved saved (careful.read read hm).1).1
  | unsaved read saved => exact (careful.saved saved (careful.read read hm).1).1
  | deleted => exact (careful.deleteAll _ _ hm).1
  | flushed => exact (careful.flush _ _ hm).1

theorem Run.keeps_good (careful : Careful good stored) (run : Run s calls t) (hs : good s.storage) :
    good t.storage :=
  run.invariant (P := fun m => good m.storage) (fun _ _ _ step => step.keeps_good careful)
    (fun _ _ _ h => h) hs

/-! ### Refused calls -/

omit [Storage σ] in
theorem Untouched.not_reprioritised {id : UnitId} {priority : Int32} {u : WorkUnit}
    (h : Untouched stored (t.reprioritise id priority) n)
    (live : t.scheduler.graph.unit? id = some u) (other : u.priority ≠ priority) :
    ¬ Untouched stored t n := by
  intro same
  have graph : t.scheduler.graph = t.scheduler.graph.update id fun u => { u with priority } :=
    same.graph.symm.trans h.graph
  have changed := Graph.unit?_update_self (f := fun u => { u with priority }) live
  rw [← graph, live] at changed
  exact other (congrArg WorkUnit.priority (Option.some.inj changed))

omit [Storage σ] in
theorem reprioritise_eq_self {id : UnitId} {priority : Int32} {u : WorkUnit}
    (live : t.scheduler.graph.unit? id = some u) (same : u.priority = priority) :
    t.reprioritise id priority = t := by
  have still := Graph.update_eq_self (f := fun u => { u with priority }) fun v hv => by
    cases live.symm.trans hv
    rw [← same]
  rw [reprioritise, change, still]

theorem requestLaunch_refused (careful : Careful good stored) (kept : t.scheduler.Kept)
    (ht : good t.storage) {id : UnitId} {task : LaunchTask} {priority : Int32} {refusal : Refusal}
    (refused : (t.call (.requestLaunch id task priority)).answer = .error refusal) :
    Untouched stored t (t.call (.requestLaunch id task priority)).after ∧
        ¬ (t.call (.requestLaunch id task priority)).DropsPriority ∨
      Untouched stored (t.reprioritise id priority)
          (t.call (.requestLaunch id task priority)).after ∧
        (t.call (.requestLaunch id task priority)).DropsPriority := by
  obtain ⟨answer, es, launched, answered, trace⟩ := perform_requestLaunch id task priority t
  rw [refused] at answered
  cases launched with
  | unknown absent =>
      refine .inl ⟨(trace.untouched careful kept ht (by simp)).2, ?_⟩
      rintro ⟨_, _, _, u, hc, live, _⟩
      cases hc
      cases absent.symm.trans live
  | busy live busy =>
      refine .inl ⟨(trace.untouched careful kept ht (by simp)).2, ?_⟩
      rintro ⟨_, _, _, u, hc, live', _, ⟨_, hanswer⟩ | ⟨idle, _⟩⟩
      · cases refused.symm.trans hanswer
      · cases hc
        cases live.symm.trans live'
        exact not_or.2 busy idle
  | @unread u refusal' live idle =>
      have after : Untouched stored (t.reprioritise id priority)
          (t.call (.requestLaunch id task priority)).after := by
        cases trace with
        | cons step rest =>
            have hgood := step.keeps_good careful ht
            have kept' := step.kept kept
            cases step with
            | prioritise _ _ => exact (rest.untouched careful kept' hgood (by simp [Event.isIdle])).2
      by_cases other : u.priority = priority
      · rw [reprioritise_eq_self live other] at after
        refine .inl ⟨after, ?_⟩
        rintro ⟨_, _, _, v, hc, live', hne, _⟩
        cases hc
        cases live.symm.trans live'
        exact hne other
      · exact .inr ⟨after, id, task, priority, u, rfl, live, other, .inr ⟨idle, _, refused⟩⟩
  | _ => cases answered

/-- A call that is refused changes nothing, unless it is a request for a slot that sets another
priority and then fails to read the unit's checkpoints: that one leaves the new priority behind, and
changes nothing else. -/
theorem Run.refusal_untouched (careful : Careful good stored) (opened : Opened s)
    (start : good s.storage) (run : Run s calls t) {refusal : Refusal}
    (refused : (t.call c).answer = .error refusal) :
    (Untouched stored t (t.call c).after ↔ ¬ (t.call c).DropsPriority) ∧
      ((t.call c).DropsPriority → ∃ id task priority, c = .requestLaunch id task priority ∧
        Untouched stored (t.reprioritise id priority) (t.call c).after) := by
  have kept := run.kept opened
  have ht := run.keeps_good careful start
  by_cases request : c.IsRequest
  · cases c with
    | requestLaunch id task priority =>
        obtain ⟨same, drops⟩ | ⟨changed, drops⟩ := requestLaunch_refused careful kept ht refused
        · exact ⟨⟨fun _ => drops, fun _ => same⟩, fun h => absurd h drops⟩
        · refine ⟨⟨fun same => ?_, fun h => absurd drops h⟩, fun _ => ⟨_, _, _, rfl, changed⟩⟩
          obtain ⟨_, _, _, u, hc, live, other, _⟩ := drops
          cases hc
          exact absurd same (changed.not_reprioritised live other)
    | _ => cases request
  · obtain ⟨es, trace, idle⟩ := perform_idles kept request refusal _
      (Prod.ext refused rfl : c.perform.run t = (.error refusal, (t.call c).after))
    have same := (trace.untouched careful kept ht idle).2
    have drops : ¬ (t.call c).DropsPriority := by
      rintro ⟨_, _, _, _, rfl, _⟩
      exact request trivial
    exact ⟨⟨fun _ => drops, fun _ => same⟩, fun h => absurd h drops⟩

/-- A session with the standard limits and budget, over a storage in memory of which some calls
fail. -/
def failing (calls : List StorageCall) : Session (Faulty Vault) :=
  ⟨fresh.scheduler, ⟨fresh.storage, calls⟩, [], 0, .epoch⟩

theorem opened_failing (calls : List StorageCall) : Opened (failing calls) :=
  .new standard_budget (made_limited rfl)

theorem refusal_untouched_unread :
    let s := ((failing [.loadLatest]).call
      (.addUnit ⟨"lib", .core, .pending, 0, 1000, ∅, 0, false⟩)).after
    let c := s.call (.requestLaunch "lib" ⟨"build", 1000⟩ 7)
    c.answer = .error (.storage "injected load_latest") ∧
      (Untouched (·.inner.history) s c.after ↔ ¬ c.DropsPriority) := by
  intro s c
  have refused : c.answer = .error (.storage "injected load_latest") := rfl
  have run := (Run.nil (s := failing [.loadLatest])).call
    (.addUnit ⟨"lib", .core, .pending, 0, 1000, ∅, 0, false⟩)
  exact ⟨refused, (Run.refusal_untouched (Faulty.careful Vault.careful_memory)
    (opened_failing [.loadLatest]) ⟨_, _, rfl⟩ run refused).1⟩

/-- A request for a slot that cannot read the unit's checkpoints is refused, and the unit has the
new priority all the same. -/
theorem touched_unread :
    let s := ((failing [.loadLatest]).call
      (.addUnit ⟨"lib", .core, .pending, 0, 1000, ∅, 0, false⟩)).after
    let c := s.call (.requestLaunch "lib" ⟨"build", 1000⟩ 7)
    c.answer = .error (.storage "injected load_latest") ∧
      ¬ Untouched (·.inner.history) s c.after := by
  intro s c
  refine ⟨rfl, ?_⟩
  intro same
  have priority : (c.after.scheduler.graph.unit? "lib").map (·.priority) = some 7 := by
    decide +kernel
  rw [same.graph] at priority
  exact absurd priority (by decide +kernel)

end Session

end BuildAdmission
