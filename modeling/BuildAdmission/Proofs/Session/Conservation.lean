import BuildAdmission.Proofs.Session.Noted
import BuildAdmission.Proofs.Session.Turnover
import BuildAdmission.Scheduler.Report

namespace BuildAdmission

/-- During the call a checkpoint could not be read. -/
def Call.LosesSight {σ : Type} [Storage σ] (c : Call σ) : Prop := c.fails [.loadLatest] = true

namespace Session

variable {σ : Type} [Storage σ] {m n s t : Session σ} {e : Event} {es : List Event}
  {calls : List (Call σ)} {c : Command} {id : UnitId}

/-- No launch waits while a slot is free. -/
def Conserving (s : Session σ) : Prop := s.scheduler.queue.entries = [] ∨ s.scheduler.isFull = true

/-! ### What fills a slot or takes a launch out of the queue -/

omit [Storage σ] in
theorem Conserving.of_fewer (h : m.Conserving)
    (fewer : m.scheduler.queue.entries = [] → n.scheduler.queue.entries = [])
    (limits : n.scheduler.limits = m.scheduler.limits)
    (running : n.scheduler.running.size = m.scheduler.running.size) : n.Conserving := by
  refine h.imp fewer fun full => ?_
  rw [Scheduler.isFull, limits, running]
  exact full

omit [Storage σ] in
/-- While a slot is free no launch is taken. -/
theorem Conserving.no_room (h : m.Conserving) (room : m.scheduler.isFull = false)
    {next : QueuedLaunch × AdmissionQueue} (pop : m.scheduler.queue.pop? = some next) : False := by
  rcases h with empty | full
  · cases (AdmissionQueue.pop?_eq_none_iff.2 empty).symm.trans pop
  · cases full.symm.trans room

omit [Storage σ] in
theorem Conserving.of_taken (h : m.Conserving) {launch : QueuedLaunch} {rest : AdmissionQueue}
    (taken : m.scheduler.queue.entries.Perm (launch :: rest.entries))
    (limits : n.scheduler.limits = m.scheduler.limits)
    (running : n.scheduler.running.size = m.scheduler.running.size) : n.Conserving := by
  refine h.of_fewer (fun empty => ?_) limits running
  rw [empty] at taken
  exact (List.not_perm_nil_cons _ _ taken).elim

/-- Only the end of a run can leave a slot free while a launch waits. -/
theorem Step.conserving (h : Step m e n) (hm : m.Conserving) (goesOn : e.ends? = none) :
    n.Conserving := by
  cases h with
  | split live idle free accepted =>
      rw [Conserving, foldl_log_scheduler]
      exact hm
  | withdraw live idle found =>
      exact hm.of_taken (AdmissionQueue.remove?_entries found).2.1 rfl rfl
  | reinstate live idle found =>
      exact hm.of_taken (AdmissionQueue.remove?_entries found).2.1 rfl rfl
  | enqueue live idle gate full behind => exact .inr full
  | grant live idle gate room read => exact .inl (hm.resolve_right (by simp [room]))
  | promote room pop live queued gate read => exact (hm.no_room room pop).elim
  | demote room pop live queued gate => exact (hm.no_room room pop).elim
  | drop pop stale => exact hm.of_taken (AdmissionQueue.pop?_entries pop).1 rfl rfl
  | stall room pop live queued gate read => exact (hm.no_room room pop).elim
  | suspend | complete | retry | fail => cases goesOn
  | progress live status slot => exact hm.of_fewer id rfl (IdMap.size_modify ..)
  | _ => exact hm

theorem Trace.conserving (h : Trace m es n) (hm : m.Conserving) (goesOn : ∀ e ∈ es, e.ends? = none) :
    n.Conserving := by
  induction h with
  | nil => exact hm
  | cons step rest ih =>
      obtain ⟨he, hes⟩ := List.forall_mem_cons.1 goesOn
      exact ih (step.conserving hm he) hes

/-! ### Freed slots -/

theorem Turn.trace {report : TransitionReport} (h : Turn s report n) : ∃ es, Trace s es n := by
  obtain @⟨e, m, v, served, rest, freed, _, _, promote, _, _⟩ := h
  obtain ⟨es, r, hrun, trace, _⟩ := Op.promote_trace m
  obtain ⟨_, rfl⟩ := Prod.mk.inj (promote.symm.trans hrun)
  exact ⟨_, .cons freed trace⟩

theorem Turnover.trace {reports : List TransitionReport} (h : Turnover s reports t) :
    ∃ es, Trace s es t := by
  induction h with
  | nil => exact ⟨[], .nil⟩
  | @cons s s' n t report reports noted turn later ih =>
      obtain ⟨es, trace⟩ := turn.trace
      obtain ⟨es', trace'⟩ := ih
      have all := trace.append (.cons .flush trace')
      rcases noted with rfl | noted
      · exact ⟨_, all⟩
      · exact ⟨_, .cons noted all⟩

/-- Freed slots are filled as long as launches wait, unless a checkpoint cannot be read. -/
theorem Turnover.conserving {s t : Session (Noted [.loadLatest] σ)}
    {reports : List TransitionReport} (h : Turnover s reports t) (hs : s.Conserving)
    (sight : t.storage.failed = false) : t.Conserving := by
  induction h with
  | nil => exact hs
  | @cons s s' n t report reports noted turn later ih =>
      refine ih ?_ sight
      obtain @⟨e, m, v, served, rest, _, _, _, _, served, stops⟩ := turn
      cases stops with
      | full full storage => exact .inr full
      | exhausted storage => exact .inl served.left
      | stalled room admits read =>
          obtain ⟨es, trace⟩ := later.trace
          have lost := (Trace.cons .flush trace).failed (Noted.failed_of_error read (by decide))
          cases sight.symm.trans lost

/-! ### Calls -/

theorem shows_perform {τ : Type} [Storage τ] {view : τ → σ} (h : Storage.View view)
    (frees : c.freesSlots = true) : Op.Shows view c.perform c.perform := by
  cases c with
  | completed id => exact (Op.shows_completed h id).map _
  | failed id reason => exact (Op.shows_failed h id reason).map _
  | suspended id data => exact (Op.shows_suspended h id data).map _
  | applyOutcome id ticket outcome => exact (Op.shows_applyOutcome h id ticket outcome).map _
  | expireIdle now => exact (Op.shows_expireIdle h now).map _
  | _ => cases frees

theorem noted_call (names : List StorageCall) (frees : c.freesSlots = true) :
    (t.call c).answer = ((t.noted names).call c).answer ∧
      (t.call c).after = ((t.noted names).call c).after.map Noted.inner :=
  Prod.mk.inj (shows_perform Noted.view_inner frees (t.noted names))

theorem ends?_of_isIdle (h : e.isIdle = true) : e.ends? = none := by
  cases e <;> first | rfl | cases h

theorem ends?_of_isEdit (h : e.isEdit = true) : e.ends? = none := by
  cases e <;> first | rfl | cases h

/-- An operation that can free slots. Seen over a storage where it is noted whether a checkpoint
could not be read, it leaves a slot free only if that was so. -/
theorem freed_conserving (kept : t.scheduler.Kept) (ordered : t.scheduler.queue.InOrder)
    (ht : t.Conserving) (frees : c.freesSlots = true) (sight : ¬ (t.call c).LosesSight) :
    (t.call c).after.Conserving := by
  rw [(noted_call [.loadLatest] frees).2]
  have kept' : (t.noted [.loadLatest]).scheduler.Kept := kept
  have conserving : ((t.noted [.loadLatest]).call c).after.Conserving := by
    cases answered : (c.perform.run (t.noted [.loadLatest])).1 with
    | error refusal =>
        obtain ⟨es, trace, idle⟩ := perform_idles kept' (Command.not_isRequest frees) refusal _
          (Prod.ext answered rfl)
        exact trace.conserving ht fun e he => ends?_of_isIdle (idle e he)
    | ok answer =>
        have turnover := perform_turnover kept' ordered frees (Prod.ext answered rfl)
        exact turnover.conserving ht (Bool.eq_false_iff.2 sight)
  exact conserving

theorem call_conserving (kept : t.scheduler.Kept) (ordered : t.scheduler.queue.InOrder)
    (ht : t.Conserving) (c : Command) (sight : ¬ (t.call c).LosesSight) :
    (t.call c).after.Conserving := by
  by_cases edit : c.isEdit = true
  · obtain ⟨es, edited⟩ := perform_edited edit t
    exact edited.trace.conserving ht fun e he => ends?_of_isEdit (edited.edits e he)
  · cases c with
    | requestLaunch id task priority =>
        obtain ⟨answer, es, launched, _, trace⟩ := perform_requestLaunch id task priority t
        refine trace.conserving ht ?_
        cases launched <;> simp [Event.ends?]
    | completed | failed | suspended | applyOutcome | expireIdle =>
        exact freed_conserving kept ordered ht rfl sight
    | _ => exact absurd rfl edit

theorem Run.conserving (run : Run s calls t) (opened : Opened s)
    (sight : ∀ c ∈ calls, ¬ c.LosesSight) : t.Conserving := by
  induction run with
  | nil => exact .inl (opened.started.queue ▸ AdmissionQueue.entries_empty)
  | wait rest clock date ih => exact ih sight
  | call rest c ih =>
      obtain ⟨before, last⟩ := List.forall_mem_append.1 sight
      exact call_conserving (rest.kept opened) (rest.inOrder opened) (ih before) c
        (last _ List.mem_cons_self)

theorem Run.check (run : Run s calls t) (opened : Opened s) : t.scheduler.limits.check = .ok () :=
  run.invariant (P := fun m => m.scheduler.limits.check = .ok ())
    (fun _ _ _ step valid => step.limits ▸ valid) (fun _ _ _ h => h) opened.started.check

omit [Storage σ] in
theorem Conserving.all_running (h : t.Conserving) (kept : t.scheduler.Kept)
    (waits : t.scheduler.queue.entries ≠ []) :
    t.scheduler.running.size = t.scheduler.limits.concurrency.toNat := by
  have full := h.resolve_left waits
  exact Nat.le_antisymm kept.slots.bounded (of_decide_eq_true full)

omit [Storage σ] in
theorem Conserving.none_waits (h : t.Conserving) (kept : t.scheduler.Kept)
    (check : t.scheduler.limits.check = .ok ()) (idle : t.scheduler.activeCount = 0) :
    t.scheduler.queue.entries = [] := by
  by_contra waits
  have none : t.scheduler.running.size = 0 := idle
  have pos := Scheduler.concurrency_pos check
  have all := h.all_running kept waits
  omega

/-- A slot is given on request only if no launch waits. -/
theorem Conserving.admitted (h : t.Conserving) {task : LaunchTask} {priority : Int32} {a : Admission}
    (answered : (t.call (.requestLaunch id task priority)).answer = .ok (.launched (.admitted a))) :
    t.scheduler.queue.entries = [] := by
  obtain ⟨answer, es, launched, hanswer, trace⟩ := perform_requestLaunch id task priority t
  rw [answered] at hanswer
  cases launched with
  | admitted =>
      cases trace with
      | cons first rest =>
          cases first with
          | prioritise live idle =>
              cases rest with
              | cons second rest =>
                  cases second with
                  | grant live idle gate room read =>
                      refine h.resolve_right fun full => ?_
                      cases full.symm.trans room
  | _ => cases hanswer

/-- As long as every checkpoint can be read, slots are free only if no launch waits. So a slot that
is given on request is taken from nobody, and when no unit runs none is left waiting. -/
theorem Run.conserves (run : Run s calls t) (opened : Opened s)
    (sight : ∀ c ∈ calls, ¬ c.LosesSight) :
    (t.scheduler.queue.entries ≠ [] →
      t.scheduler.running.size = t.scheduler.limits.concurrency.toNat) ∧
    (∀ id task priority a,
      (t.call (.requestLaunch id task priority)).answer = .ok (.launched (.admitted a)) →
      t.scheduler.queue.entries = []) ∧
    (t.scheduler.activeCount = 0 → t.scheduler.queue.entries = [] ∧
      ∀ id u, t.scheduler.graph.unit? id = some u → u.status ≠ .queued) := by
  have conserving := run.conserving opened sight
  have kept := run.kept opened
  refine ⟨conserving.all_running kept, fun _ _ _ _ => conserving.admitted, fun idle => ?_⟩
  have none := conserving.none_waits kept (run.check opened) idle
  refine ⟨none, fun id u live queued => ?_⟩
  have waits := (kept.coherent.queued id).2 ⟨u, live, queued⟩
  simp [none] at waits

theorem conserves_blocked : blocked.scheduler.queue.entries ≠ [] ∧
    blocked.scheduler.running.size = blocked.scheduler.limits.concurrency.toNat := by
  have reads : ∀ c ∈ narrow.callsOf blockedCalls, c.fails [.loadLatest] = false := by decide +kernel
  have waits : blocked.scheduler.queue.entries ≠ [] := by
    rw [← List.length_pos_iff, ← AdmissionQueue.size_eq_length]
    decide +kernel
  have run := run_callAll narrow blockedCalls
  exact ⟨waits, (run.conserves opened_narrow fun c hc => Bool.eq_false_iff.1 (reads c hc)).1 waits⟩

end Session

end BuildAdmission
