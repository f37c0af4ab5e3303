import BuildAdmission.Proofs.Session.Filling
import BuildAdmission.Proofs.Session.Refusal

namespace BuildAdmission

def Answer.reports : Answer → List TransitionReport
  | ended report => report.toList
  | expired reports => reports
  | _ => []

namespace Session

variable {σ : Type} [Storage σ] {m n s t : Session σ} {e : Event} {es : List Event}
  {calls : List (Call σ)} {c : Command} {id : UnitId}

/-- The queue from which a freed slot is filled. A unit that gets another try waits in it, behind
those that came before it and have its priority or go first. -/
inductive Lines (s m : Session σ) : Event → Prop
  | same {e : Event} (other : ∀ id, e ≠ .retry id)
      (entries : m.scheduler.queue.entries = s.scheduler.queue.entries) : Lines s m e
  | behind {id : UnitId} {u : WorkUnit} {running : Running}
      (live : s.scheduler.graph.unit? id = some u)
      (slot : s.scheduler.running.find? id = some running)
      (entries : m.scheduler.queue.entries =
        s.scheduler.queue.entries.filter (fun l => l.priority ≤ u.priority) ++
          ⟨id, running.task, u.priority, s.scheduler.queue.nextSeq⟩ ::
            s.scheduler.queue.entries.filter fun l => !decide (l.priority ≤ u.priority)) :
      Lines s m (.retry id)

/-- A slot is freed and the free slots are filled. -/
inductive Turn (s : Session σ) (report : TransitionReport) (n : Session σ) : Prop
  | intro {e : Event} {m : Session σ} {v : σ} {served rest : List QueuedLaunch} (freed : Step s e m)
      (ends : e.ends? = some report.unitId) (line : Lines s m e)
      (promote : Op.promote.run m = (.ok report.promoted, n))
      (served : Served m n v report.promoted served rest) (stops : Stops m n v rest) :
      Turn s report n

/-- Slots are freed and filled one after the other, with a flush after each. A unit that was silent
for too long is noted first. -/
inductive Turnover : Session σ → List TransitionReport → Session σ → Prop
  | nil (s : Session σ) : Turnover s [] s
  | cons {s s' n t : Session σ} {report : TransitionReport} {reports : List TransitionReport}
      (noted : s' = s ∨ Step s (.expire report.unitId) s')
      (turn : Turn s' report n) (later : Turnover n.flushed reports t) :
      Turnover s (report :: reports) t

theorem Trace.inOrder (h : Trace m es n) (ordered : m.scheduler.queue.InOrder) :
    n.scheduler.queue.InOrder :=
  h.invariant (P := fun m => m.scheduler.queue.InOrder) (fun _ _ _ step => step.inOrder) ordered

theorem Step.lines (h : Step s e m) (kept : s.scheduler.Kept) (ends : e.ends? = some id) :
    Lines s m e := by
  cases h with
  | retry live status slot tries =>
      exact .behind live slot (AdmissionQueue.entries_enqueue kept.queue.numbered kept.queue.issued ..)
  | suspend | complete | fail => exact .same (by simp) rfl
  | _ => cases ends

theorem run_conclude {status : Status} {given : List Admission}
    (promote : Op.promote.run m = (.ok given, n)) : (Op.conclude id status).run m =
      (.ok ⟨id, ((n.scheduler.graph.unit? id).map (·.status)).getD status, given⟩, n.flushed) := by
  rw [Op.conclude, Op.run_bind_ok promote, Op.run_bind_ok (Op.run_persist n),
    Op.run_bind_ok (Op.run_scheduler _)]
  rfl

theorem Turn.of_concludes {report : TransitionReport} (h : Op.Concludes s id e (.ok report, t))
    (kept : s.scheduler.Kept) (ordered : s.scheduler.queue.InOrder) (ends : e.ends? = some id) :
    ∃ n, t = n.flushed ∧ report.unitId = id ∧ Turn s report n := by
  generalize hended : (Except.ok report, t) = ended at h
  obtain @⟨m, status, step⟩ := h
  have km := step.kept kept
  obtain ⟨given, n, v, served, rest, promote, hserved, stops⟩ :=
    promote_served km (step.inOrder ordered)
  cases hended.trans (run_conclude promote)
  exact ⟨n, rfl, rfl, .intro step ends (step.lines kept ends) promote hserved stops⟩

/-- An operation that ends one run. -/
theorem Turnover.of_concludes {report : TransitionReport} (h : Op.Concludes s id e (.ok report, t))
    (kept : s.scheduler.Kept) (ordered : s.scheduler.queue.InOrder) (ends : e.ends? = some id) :
    Turnover s [report] t := by
  obtain ⟨n, rfl, _, turn⟩ := Turn.of_concludes h kept ordered ends
  exact .cons (.inl rfl) turn (.nil _)

theorem failed_ends {reason : String} {report : TransitionReport}
    (h : (Op.failed id reason).run s = (.ok report, t)) :
    ∃ e, Op.Concludes s id e (.ok report, t) ∧ e.ends? = some id := by
  obtain ⟨first, hfirst, concludes⟩ | ⟨refusal, hrun, _⟩ := Op.failed_concludes id reason s
  · refine ⟨first, h ▸ concludes, ?_⟩
    rcases hfirst with rfl | rfl <;> rfl
  · cases h.symm.trans hrun

/-- A unit's outcome that is not refused ends the unit's run. -/
theorem ofOutcome_concludes {outcome : Outcome} {answer : Answer}
    (h : (Command.ofOutcome id outcome).perform.run s = (.ok answer, t)) :
    ∃ report e, answer = .ended (some report) ∧ Op.Concludes s id e (.ok report, t) ∧
      e.ends? = some id := by
  cases outcome with
  | completed =>
      obtain ⟨report, hrun, rfl⟩ := Op.run_map_eq_ok_iff.1 h
      obtain concludes | ⟨refusal, refused, _⟩ := Op.completed_concludes id s
      · exact ⟨report, _, rfl, hrun ▸ concludes, rfl⟩
      · cases refused.symm.trans hrun
  | failed reason =>
      obtain ⟨report, hrun, rfl⟩ := Op.run_map_eq_ok_iff.1 h
      obtain ⟨e, concludes, ends⟩ := failed_ends hrun
      exact ⟨report, e, rfl, concludes, ends⟩
  | suspended data =>
      obtain ⟨report, hrun, rfl⟩ := Op.run_map_eq_ok_iff.1 h
      obtain concludes | ⟨refusal, _, _, _, _, refused⟩ | ⟨refusal, refused, _⟩ :=
        Op.suspended_concludes id data s
      · exact ⟨report, _, rfl, hrun ▸ concludes, rfl⟩
      · cases refused.symm.trans hrun
      · cases refused.symm.trans hrun

section

variable (kept : s.scheduler.Kept) (ordered : s.scheduler.queue.InOrder)
  {reports : List TransitionReport}
include kept ordered

/-- The units that were silent for too long fail one after the other. -/
theorem turnover_expireEach {timeout : Duration} (same : s.scheduler.limits.idleTimeout = timeout)
    (ids : List UnitId) (h : (ids.mapM fun id => do
      Op.record id .expire (some ("no progress for " ++ timeout.describe))
      Op.failed id "idle timeout" : Op σ (List TransitionReport)).run s = (.ok reports, t)) :
    Turnover s reports t := by
  induction ids generalizing s reports with
  | nil =>
      cases h
      exact .nil _
  | cons id ids ih =>
      subst same
      have noted : Step s (.expire id) _ := .expire
      have kept' := noted.kept kept
      rw [List.mapM_cons, bind_assoc, Op.run_bind_ok (Op.run_record ..)] at h
      obtain ⟨report, r, hfailed, h⟩ := Op.run_bind_eq_ok_iff.1 h
      obtain ⟨later, r', hlater, h⟩ := Op.run_bind_eq_ok_iff.1 h
      cases h
      obtain ⟨e, concludes, ends⟩ := failed_ends hfailed
      obtain ⟨n, rfl, rfl, turn⟩ := Turn.of_concludes concludes kept' ordered ends
      obtain ⟨es, ended⟩ := concludes.ended
      exact .cons (.inr noted) turn (ih (ended.trace.kept kept') (ended.trace.inOrder ordered)
        (congrArg Limits.idleTimeout ended.trace.limits) hlater)

theorem perform_turnover {c : Command} (frees : c.freesSlots = true) {answer : Answer}
    (h : c.perform.run s = (.ok answer, t)) : Turnover s answer.reports t := by
  have ended (id : UnitId) (outcome : Outcome)
      (h : (Command.ofOutcome id outcome).perform.run s = (.ok answer, t)) :
      Turnover s answer.reports t := by
    obtain ⟨report, e, rfl, concludes, ends⟩ := ofOutcome_concludes h
    exact .of_concludes concludes kept ordered ends
  cases c with
  | completed id => exact ended id .completed h
  | failed id reason => exact ended id (.failed reason) h
  | suspended id data => exact ended id (.suspended data) h
  | applyOutcome id ticket outcome =>
      rw [perform_applyOutcome] at h
      split at h
      · exact ended id outcome h
      · cases h
        exact .nil _
  | expireIdle now =>
      obtain ⟨reports, hrun, rfl⟩ := Op.run_map_eq_ok_iff.1 h
      rw [Op.expireIdle, Op.run_bind_ok (Op.run_scheduler s)] at hrun
      exact turnover_expireEach kept ordered rfl _ hrun
  | _ => cases frees

end

theorem Turn.tickets {report : TransitionReport} (h : Turn s report n) :
    (report.promoted.map (·.ticket)).Pairwise (· < ·) := by
  obtain ⟨_, _, _, _, served, _⟩ := h
  rw [served.handed.tickets]
  exact List.pairwise_lt_range'

theorem Turnover.tickets {reports : List TransitionReport} (h : Turnover s reports t) :
    ∀ report ∈ reports, (report.promoted.map (·.ticket)).Pairwise (· < ·) := by
  induction h with
  | nil => simp
  | cons noted turn later ih => exact List.forall_mem_cons.2 ⟨turn.tickets, ih⟩

theorem Step.running_of_isIdle (h : Step m e n) (idle : e.isIdle = true) :
    n.scheduler.running = m.scheduler.running := by
  cases h with
  | reinstate | unread | unsaved | flush => rfl
  | _ => cases idle

theorem Trace.running_of_isIdle (h : Trace m es n) (idle : ∀ e ∈ es, e.isIdle = true) :
    n.scheduler.running = m.scheduler.running := by
  induction h with
  | nil => rfl
  | cons step rest ih =>
      obtain ⟨he, hes⟩ := List.forall_mem_cons.1 idle
      exact (ih hes).trans (step.running_of_isIdle he)

/-- Whenever an operation frees slots, each is filled from the queue as it is listed then: by
priority, and by arrival among equals. The launches that are taken make up the front of that list,
and those that may not run are noted and not lost from sight. An operation that is refused has freed
no slot. -/
theorem Run.fills_in_line (run : Run s calls t) (opened : Opened s) (frees : c.freesSlots = true) :
    (∀ answer, (t.call c).answer = .ok answer →
      Turnover t answer.reports (t.call c).after ∧
        ∀ report ∈ answer.reports, (report.promoted.map (·.ticket)).Pairwise (· < ·)) ∧
      ∀ refusal, (t.call c).answer = .error refusal →
        (t.call c).after.scheduler.running = t.scheduler.running := by
  have kept := run.kept opened
  refine ⟨fun answer answered => ?_, fun refusal refused => ?_⟩
  · have turnover := perform_turnover kept (run.inOrder opened) frees
      (Prod.ext answered rfl : c.perform.run t = (.ok answer, (t.call c).after))
    exact ⟨turnover, turnover.tickets⟩
  · have request := Command.not_isRequest frees
    obtain ⟨es, trace, idle⟩ := perform_idles kept request refusal _
      (Prod.ext refused rfl : c.perform.run t = (.error refusal, (t.call c).after))
    exact trace.running_of_isIdle idle

/-- A session with one slot. -/
def narrow : Session Vault :=
  fresh.change fun s => { s with limits := { s.limits with concurrency := 1 } }

theorem opened_narrow : Opened narrow := opened_limited rfl

/-- `lib` gets the only slot. Of those that wait `app` goes first, but it comes to depend on `tool`. -/
def blockedCalls : List Command :=
  [.addUnit ⟨"lib", .core, .pending, 0, 1000, ∅, 0, false⟩,
    .addUnit ⟨"app", .core, .pending, 0, 1000, ∅, 0, false⟩,
    .addUnit ⟨"tool", .core, .pending, 0, 1000, ∅, 0, false⟩,
    .requestLaunch "lib" ⟨"build", 1000⟩ 3, .requestLaunch "tool" ⟨"build", 1000⟩ 3,
    .requestLaunch "app" ⟨"build", 1000⟩ 1, .addEdge "app" "tool"]

def blocked : Session Vault := narrow.callAll blockedCalls

theorem fills_in_line_blocked : ∃ answer : Answer,
    blocked.scheduler.queue.entries.map (·.unitId) = ["app", "tool"] ∧
      (blocked.call (.completed "lib")).answer = .ok answer ∧
      answer.reports.flatMap (·.promoted.map (·.unit.id)) = ["tool"] ∧
      Turnover blocked answer.reports (blocked.call (.completed "lib")).after := by
  have promoted : ((blocked.call (.completed "lib")).answer.map fun answer =>
      answer.reports.flatMap (·.promoted.map (·.unit.id))) = .ok ["tool"] := by decide +kernel
  obtain ⟨answer, answered, names⟩ := Except.map_eq_ok_iff.1 promoted
  have line : blocked.scheduler.queue.entries = blocked.scheduler.queue.heap.toList :=
    List.mergeSort_of_pairwise (by decide +kernel)
  exact ⟨answer, by rw [line]; decide +kernel, answered, names,
    (((run_callAll narrow _).fills_in_line opened_narrow rfl).1 _ answered).1⟩

end Session

end BuildAdmission
