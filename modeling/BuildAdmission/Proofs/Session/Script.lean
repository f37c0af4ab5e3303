import BuildAdmission.Proofs.Session.Refusal

namespace BuildAdmission

/-- The event by which an outcome ends a unit's run. A failure leads to another try or to none. -/
inductive Outcome.EndsBy (id : UnitId) : Outcome → Event → Prop
  | completed : EndsBy id .completed (.complete id)
  | retried {reason : String} : EndsBy id (.failed reason) (.retry id)
  | failed {reason : String} : EndsBy id (.failed reason) (.fail id)
  | suspended {data : CheckpointData} : EndsBy id (.suspended data) (.suspend id data)

theorem Outcome.EndsBy.silent {id : UnitId} {outcome : Outcome} {first : Event}
    (h : outcome.EndsBy id first) : first.admission? = none := by
  cases h <;> rfl

theorem Outcome.EndsBy.isRequest {id : UnitId} {outcome : Outcome} {first : Event}
    (h : outcome.EndsBy id first) : first.isRequest = false := by
  cases h <;> rfl

/-- The operation is told how the unit's run ended. -/
inductive Command.Tells (id : UnitId) (outcome : Outcome) : Command → Prop
  | reported : Tells id outcome (.ofOutcome id outcome)
  | applied {ticket : Nat} : Tells id outcome (.applyOutcome id ticket outcome)

theorem Command.Tells.freesSlots {c : Command} {id : UnitId} {outcome : Outcome}
    (h : c.Tells id outcome) : c.freesSlots = true := by
  cases h with
  | reported => cases outcome <;> rfl
  | applied => rfl

/-- The events of a call, by its command and its answer. -/
inductive Script {σ : Type} (s : Session σ) : Command → Except Refusal Answer → List Event → Prop
  | refused {c refusal} : Script s c (.error refusal) []
  | registered {u answer} : Script s (.addUnit u) (.ok answer) [.register u, .flush]
  | connected {source target answer} :
      Script s (.addEdge source target) (.ok answer) [.connect source target, .flush]
  | resized {id size answer} : Script s (.updateSize id size) (.ok answer) [.resize id size, .flush]
  | retuned {thresholds answer} :
      Script s (.setThresholds thresholds) (.ok answer) [.retune thresholds]
  | requested {id task priority outcome es} (launched : Launched s id task priority outcome es) :
      Script s (.requestLaunch id task priority) (outcome.map .launched) es
  | ended {c id outcome first report es} (told : c.Tells id outcome)
      (ends : outcome.EndsBy id first) (filled : ∀ e ∈ es, e.isPromotion = true) :
      Script s c (.ok (.ended (some report))) (first :: (es ++ [.flush]))
  | unended {c id outcome e refusal} (told : c.Tells id outcome)
      (failed : e = .unread id ∨ e = .unsaved id) : Script s c (.error refusal) [e]
  | late {id ticket outcome} : Script s (.applyOutcome id ticket outcome) (.ok (.ended none)) []
  | progressed {id answer} : Script s (.recordProgress id) (.ok answer) [.progress id]
  | expired {now reports es} (expiries : Expiries (Op.idleAt s.scheduler now) reports es) :
      Script s (.expireIdle now) (.ok (.expired reports)) es
  | reset {id answer} : Script s (.resetFailed id) (.ok answer) [.reset id, .flush]
  | archived {id es answer} (withdrawn : es = [] ∨ es = [.withdraw id]) :
      Script s (.archive id) (.ok answer) (es ++ [.archive id, .flush])
  | parted {plan es answer} (withdrawn : es = [] ∨ es = [.withdraw plan.whole]) :
      Script s (.split plan) (.ok answer) (es ++ [.split plan, .flush])
  | reinstated {c id refusal} : Script s c (.error refusal) [.reinstate id]
  | flushed {answer} : Script s .flush answer [.flush]

theorem Script.admissions_of_isEdit {σ : Type} {s : Session σ} {c : Command}
    {answer : Except Refusal Answer} {es : List Event} (h : Script s c answer es)
    (edit : c.isEdit = true) : Event.admissions es = [] := by
  have tells {id : UnitId} {outcome : Outcome} (told : c.Tells id outcome) : c.isEdit = false := by
    cases told with
    | reported => cases outcome <;> rfl
    | applied => rfl
  cases h with
  | archived withdrawn | parted withdrawn => rcases withdrawn with rfl | rfl <;> rfl
  | ended told | unended told => cases (tells told).symm.trans edit
  | requested | late | expired => cases edit
  | _ => rfl

section

variable {σ : Type} {s : Session σ} {c : Command} {answer : Except Refusal Answer} {es : List Event}

theorem Script.internal (h : Script s c answer es) (request : ¬ c.IsRequest) :
    ∀ e ∈ es, e.isRequest = false := by
  cases h with
  | requested => exact absurd trivial request
  | ended told ends filled =>
      have first := ends.isRequest
      have later := fun e he => Event.isRequest_of_isPromotion (filled e he)
      exact List.forall_mem_cons.2 ⟨first, List.forall_mem_append.2 ⟨later, by simp [Event.isRequest]⟩⟩
  | unended told failed => rcases failed with rfl | rfl <;> simp [Event.isRequest]
  | expired expiries =>
      exact expiries.forall_events (fun _ => rfl) (fun _ => ⟨rfl, rfl⟩)
        (fun _ => Event.isRequest_of_isPromotion) rfl
  | archived withdrawn | parted withdrawn =>
      rcases withdrawn with rfl | rfl <;> simp [Event.isRequest]
  | _ => simp [Event.isRequest]

theorem Script.request_of_grant {id : UnitId} {a : Admission} (h : Script s c answer es)
    (he : .grant id a ∈ es) :
    ∃ priority, c = .requestLaunch id a.task priority ∧ answer = .ok (.launched (.admitted a)) := by
  have request : c.IsRequest := by
    by_contra request
    cases h.internal request _ he
  cases h with
  | requested launched =>
      cases launched with
      | admitted asked =>
          simp only [List.mem_cons, List.not_mem_nil, or_false, reduceCtorEq, false_or,
            Event.grant.injEq] at he
          obtain ⟨rfl, rfl⟩ := he
          exact ⟨_, by rw [asked], rfl⟩
      | _ => simp at he
  | ended told | unended told => exact absurd request (Command.not_isRequest told.freesSlots)
  | refused | late => cases he
  | reinstated => simp at he
  | _ => cases request

theorem Script.not_request_of_promote {id : UnitId} {a : Admission} (h : Script s c answer es)
    (he : .promote id a ∈ es) : ¬ c.IsRequest := by
  intro request
  cases h with
  | requested launched => cases launched <;> simp at he
  | ended told | unended told => exact absurd request (Command.not_isRequest told.freesSlots)
  | refused | late => cases he
  | reinstated => simp at he
  | _ => cases request

/-- A call that changes the thresholds does nothing else. -/
theorem Script.eq_of_retune {thresholds : Thresholds} (h : Script s c answer es)
    (he : .retune thresholds ∈ es) : es = [.retune thresholds] := by
  cases h with
  | retuned =>
      rw [List.mem_singleton.1 he]
  | requested launched => cases launched <;> simp at he
  | ended told ends filled =>
      rcases List.mem_cons.1 he with same | later
      · cases ends <;> cases same
      · rcases List.mem_append.1 later with promotion | last
        · cases filled _ promotion
        · simp at last
  | unended told failed => rcases failed with rfl | rfl <;> simp at he
  | expired expiries =>
      have apart := expiries.forall_events (P := (· ≠ .retune thresholds)) (by simp) (by simp)
        (by rintro _ promotion rfl; cases promotion) (by simp)
      exact absurd rfl (apart _ he)
  | archived withdrawn | parted withdrawn => rcases withdrawn with rfl | rfl <;> simp at he
  | _ => simp at he

end

namespace Call

def given {σ : Type} (c : Call σ) : List Admission := c.answer.toOption.elim [] Answer.admissions

end Call

namespace Session

variable {σ : Type} [Storage σ] {s t : Session σ} {es : List Event} {c : Command} {id : UnitId}

theorem given_of_isEdit (h : Script s c (s.call c).answer es) (edit : c.isEdit = true) :
    Event.admissions es = (s.call c).given := by
  rw [h.admissions_of_isEdit edit, Call.given]
  cases answered : (s.call c).answer with
  | error => rfl
  | ok answer => exact (admissions_of_isEdit edit answered).symm

theorem Atomic.script (h : Atomic s es (c.perform.run s))
    (done : ∀ answer, Script s c (.ok answer) es) :
    ∃ es, Script s c (s.call c).answer es ∧ Trace s es (s.call c).after := by
  rw [call]
  generalize c.perform.run s = ended at h
  cases h with
  | refused => exact ⟨[], .refused, .nil⟩
  | done trace => exact ⟨es, done _, trace⟩

theorem Retired.script {e : Event} (h : Retired s id e (c.perform.run s) es)
    (done : ∀ answer es, es = [] ∨ es = [.withdraw id] →
      Script s c (.ok answer) (es ++ [e, .flush])) :
    ∃ es, Script s c (s.call c).answer es ∧ Trace s es (s.call c).after := by
  rw [call]
  generalize c.perform.run s = ended at h
  cases h with
  | refused trace back =>
      rcases back with rfl | rfl
      · exact ⟨[], .refused, trace⟩
      · exact ⟨[.reinstate id], .reinstated, trace⟩
  | done trace withdrawn => exact ⟨_, done _ _ withdrawn, trace⟩

/-- A run ends with its event, the filling of the free slots and a flush. Otherwise the checkpoints
could not be read or written, or nothing has happened. -/
theorem ofOutcome_events (id : UnitId) (outcome : Outcome) (s : Session σ) :
    (∃ first report es t, outcome.EndsBy id first ∧ (∀ e ∈ es, e.isPromotion = true) ∧
      Trace s (first :: (es ++ [.flush])) t ∧ report.promoted = Event.admissions es ∧
      (Command.ofOutcome id outcome).perform.run s = (.ok (.ended (some report)), t)) ∨
    (∃ e t refusal, (e = .unread id ∨ e = .unsaved id) ∧ Step s e t ∧
      (Command.ofOutcome id outcome).perform.run s = (.error refusal, t)) ∨
    ∃ refusal, (Command.ofOutcome id outcome).perform.run s = (.error refusal, s) := by
  have ended {op : Op σ TransitionReport} {first : Event} {es : List Event}
      (endsBy : outcome.EndsBy id first) (h : Op.Ended s first (op.run s) es) :
      ∃ first report es t, outcome.EndsBy id first ∧ (∀ e ∈ es, e.isPromotion = true) ∧
        Trace s (first :: (es ++ [.flush])) t ∧ report.promoted = Event.admissions es ∧
        ((Answer.ended ∘ some) <$> op).run s = (.ok (.ended (some report)), t) := by
    obtain ⟨report, hreport, given⟩ := h.report
    refine ⟨first, report, es, _, endsBy, h.promotions, h.trace, given, ?_⟩
    rw [Op.run_map, hreport]
    rfl
  have refused {op : Op σ TransitionReport} {refusal : Refusal} {t : Session σ}
      (h : op.run s = (.error refusal, t)) :
      ((Answer.ended ∘ some) <$> op).run s = (.error refusal, t) := by
    rw [Op.run_map, h]
    rfl
  cases outcome with
  | completed =>
      obtain ⟨es, h⟩ | ⟨refusal, hrun, _⟩ := Op.run_completed id s
      · exact .inl (ended .completed h)
      · exact .inr (.inr ⟨refusal, refused hrun⟩)
  | failed reason =>
      obtain ⟨first, es, rfl | rfl, h⟩ | ⟨refusal, hrun, _⟩ := Op.run_failed id reason s
      · exact .inl (ended .retried h)
      · exact .inl (ended .failed h)
      · exact .inr (.inr ⟨refusal, refused hrun⟩)
  | suspended data =>
      obtain ⟨es, h⟩ | ⟨refusal, e, t, step, he, hrun⟩ | ⟨refusal, hrun, _⟩ :=
        Op.run_suspended id data s
      · exact .inl (ended .suspended h)
      · exact .inr (.inl ⟨e, t, refusal, he, step, refused hrun⟩)
      · exact .inr (.inr ⟨refusal, refused hrun⟩)

theorem told_script (outcome : Outcome) (told : c.Tells id outcome)
    (same : c.perform.run s = (Command.ofOutcome id outcome).perform.run s) :
    ∃ es, Script s c (s.call c).answer es ∧ Trace s es (s.call c).after ∧
      Event.admissions es = (s.call c).given := by
  rw [Call.given, call, same]
  obtain ⟨first, report, es, t, endsBy, promotions, trace, given, hrun⟩ |
    ⟨e, t, refusal, he, step, hrun⟩ | ⟨refusal, hrun⟩ := ofOutcome_events id outcome s
  · rw [hrun]
    refine ⟨_, .ended told endsBy promotions, trace, ?_⟩
    simp [endsBy.silent, Except.toOption, Answer.admissions, given]
  · rw [hrun]
    refine ⟨_, .unended told he, step.trace, ?_⟩
    rcases he with rfl | rfl <;> rfl
  · rw [hrun]
    exact ⟨[], .refused, .nil, rfl⟩

theorem edit_script (edit : c.isEdit = true) :
    ∃ es, Script s c (s.call c).answer es ∧ Trace s es (s.call c).after := by
  cases c with
  | addUnit u => exact (Op.addUnit_atomic u s).map.script fun _ => .registered
  | addEdge source target =>
      exact (Op.addEdge_atomic source target s).map.script fun _ => .connected
  | updateSize id size => exact (Op.updateSize_atomic id size s).map.script fun _ => .resized
  | setThresholds thresholds =>
      exact (Op.setThresholds_atomic thresholds s).map.script fun _ => .retuned
  | recordProgress id => exact (Op.recordProgress_atomic id s).map.script fun _ => .progressed
  | resetFailed id => exact (Op.resetFailed_atomic id s).map.script fun _ => .reset
  | archive id =>
      obtain ⟨_, retired⟩ := Op.archive_retired id s
      exact retired.map.script fun _ _ => .archived
  | split plan =>
      obtain ⟨_, retired⟩ := Op.split_retired plan s
      exact retired.map.script fun _ _ => .parted
  | flush =>
      rw [call, perform_flush]
      exact ⟨[.flush], .flushed, Step.flush.trace⟩
  | _ => cases edit

/-- What a call does is one of the known lists of events, and it hands out what they admit. -/
theorem call_script_given (kept : s.scheduler.Kept) (c : Command) :
    ∃ es, Script s c (s.call c).answer es ∧ Trace s es (s.call c).after ∧
      Event.admissions es = (s.call c).given := by
  by_cases edit : c.isEdit = true
  · obtain ⟨es, script, trace⟩ := edit_script (s := s) edit
    exact ⟨es, script, trace, given_of_isEdit script edit⟩
  · cases c with
    | requestLaunch id task priority =>
        obtain ⟨answer, es, launched, answered, trace⟩ := perform_requestLaunch id task priority s
        rw [Call.given, answered]
        refine ⟨es, .requested launched, trace, ?_⟩
        cases launched <;> rfl
    | completed id => exact told_script .completed .reported rfl
    | failed id reason => exact told_script (.failed reason) .reported rfl
    | suspended id data => exact told_script (.suspended data) .reported rfl
    | applyOutcome id ticket outcome =>
        have hrun := perform_applyOutcome id ticket outcome s
        split at hrun
        · exact told_script outcome .applied hrun
        · rw [Call.given, call, hrun]
          exact ⟨[], .late, .nil, rfl⟩
    | expireIdle now =>
        obtain ⟨reports, es, t, _, expiries, trace, given, hrun⟩ := expireIdle_sure kept now
        rw [Call.given, call, Command.perform, Op.run_map, hrun]
        exact ⟨es, .expired expiries, trace, given.symm⟩
    | _ => exact absurd rfl edit

theorem call_script (kept : s.scheduler.Kept) (c : Command) :
    ∃ es, Script s c (s.call c).answer es ∧ Trace s es (s.call c).after := by
  obtain ⟨es, script, trace, _⟩ := call_script_given kept c
  exact ⟨es, script, trace⟩

end Session

end BuildAdmission
