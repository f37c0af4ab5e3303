import BuildAdmission.Dispatch.Rehearsal
import BuildAdmission.Proofs.Session.Tickets

namespace BuildAdmission

variable {σ α : Type}

/-- The operation that handles the event. -/
def UnitEvent.command : UnitEvent → Command
  | .outcome id ticket result => .applyOutcome id ticket result
  | .progress id => .recordProgress id

namespace Dispatcher

@[simp] theorem run_ofSession (op : Op σ α) (d : Dispatcher σ) : (ofSession op).run d =
    ((op.run d.session).1, { d with session := (op.run d.session).2 }) := rfl

@[simp] theorem run_get (d : Dispatcher σ) :
    (get : DispatchOp σ (Dispatcher σ)).run d = (.ok d, d) := rfl

variable [Storage σ] {d : Dispatcher σ} {c : Command}

/-- Calls an operation and hands to executors what it admits. -/
def follow (d : Dispatcher σ) (c : Command) : Dispatcher σ :=
  { d with
    session := (d.session.call c).after
    started := d.started ++ (d.session.call c).given }

theorem follow_of_not_given (h : (d.session.call c).given = []) :
    d.follow c = { d with session := (d.session.call c).after } := by
  rw [follow, h, List.append_nil]

theorem given_of_isEdit (h : c.isEdit = true) (t : Session σ) : (t.call c).given = [] := by
  unfold Call.given
  cases answered : (t.call c).answer with
  | error refusal => rfl
  | ok answer => exact Session.admissions_of_isEdit h answered

theorem handle_follow (e : UnitEvent) (d : Dispatcher σ) :
    ((handle e).run d).2 = d.follow e.command := by
  cases e with
  | progress id =>
      show _ = d.follow (.recordProgress id)
      rw [follow_of_not_given (given_of_isEdit rfl _), handle, Op.run_bind_ok (Op.run_attempt ..),
        Session.call, Command.perform, Op.run_map]
      rfl
  | outcome id ticket outcome =>
      show _ = d.follow (.applyOutcome id ticket outcome)
      rw [handle, Op.run_bind, run_ofSession, follow, Session.call, Command.perform, Op.run_map]
      cases ((Op.applyOutcome id ticket outcome).run d.session).1 with
      | error refusal => exact congrArg (Dispatcher.mk _ · _) (List.append_nil _).symm
      | ok report => rfl

/-- An event is handled by one call of an operation. -/
theorem handle_call (e : UnitEvent) (d : Dispatcher σ) :
    ∃ c, ((handle e).run d).2.session = (d.session.call c).after :=
  ⟨e.command, congrArg session (handle_follow e d)⟩

end Dispatcher

namespace Rehearsal

def session (r : Rehearsal σ) : Session σ := r.dispatcher.session

/-! ### Executors do not touch the session -/

theorem session_execute (r : Rehearsal σ) (a : Admission) : (r.execute a).2.session = r.session := by
  unfold execute
  dsimp only
  split <;> rfl

theorem session_executePending (r : Rehearsal σ) (p : Pending) :
    (r.executePending p).session = r.session := by
  have same := r.session_execute p.admission
  unfold executePending
  generalize r.execute p.admission = executed at same ⊢
  obtain ⟨outcome, r'⟩ := executed
  dsimp only
  split
  · exact same
  · simp only [session]
    split <;> exact same

theorem session_runExecutors (n : Nat) (r : Rehearsal σ) : (runExecutors n r).session = r.session := by
  induction n generalizing r with
  | zero => rfl
  | succ n ih =>
      rw [runExecutors]
      split
      · rfl
      · rw [ih, session_executePending]
        rfl

variable [Storage σ]

theorem handleFirst?_call {r r' : Rehearsal σ} {inside : Bool}
    {result : Except Refusal (Option TransitionReport)} (h : r.handleFirst? inside = some (result, r')) :
    ∃ c, r'.session = (r.session.call c).after := by
  unfold handleFirst? at h
  split at h
  · cases h
  · cases h
    exact Dispatcher.handle_call ..

theorem handleEvents_run (n : Nat) (r : Rehearsal σ) :
    ∃ calls, Session.Run r.session calls (handleEvents n r).session := by
  induction n generalizing r with
  | zero => exact ⟨[], .nil⟩
  | succ n ih =>
      rw [handleEvents]
      split
      · exact ⟨[], .nil⟩
      · split
        · exact ⟨[], .nil⟩
        · next result r' first =>
          obtain ⟨c, hc⟩ := handleFirst?_call first
          obtain ⟨calls, run⟩ := ih r'
          rw [hc] at run
          exact ⟨_, (Session.Run.nil.call c).append run⟩

theorem drain_run (fuel : Nat) (r : Rehearsal σ) :
    ∃ calls, Session.Run r.session calls (drain fuel r).session := by
  induction fuel generalizing r with
  | zero => exact ⟨[], .nil⟩
  | succ fuel ih =>
      obtain ⟨calls, handled⟩ := handleEvents_run 128 r
      rw [drain]
      split
      · exact ⟨calls, handled⟩
      · obtain ⟨later, run⟩ := ih (r.handleEvents 128).round
        rw [round, session_runExecutors] at run
        exact ⟨_, handled.append run⟩

/-- The event loop does nothing to the session but to call its operations. -/
theorem runUntilIdle_run (r : Rehearsal σ) :
    ∃ calls, Session.Run r.session calls r.runUntilIdle.session :=
  drain_run _ r

end Rehearsal

end BuildAdmission
