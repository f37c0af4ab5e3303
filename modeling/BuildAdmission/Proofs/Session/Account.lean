import BuildAdmission.Proofs.Session.Promotion

namespace BuildAdmission

namespace Event

/-- Whether the event leaves the records of the units as they are, on both sides. -/
def isQuiet : Event → Bool
  | retune _ | reinstate _ | refuse _ | drop _ | stall _ | expire _ | progress _ | unread _
  | unsaved _ => true
  | _ => false

/-- Whether the event answers a request for a slot. -/
def isRequest : Event → Bool
  | prioritise .. | block _ | refuse _ | enqueue .. | grant .. => true
  | _ => false

/-- Whether the event may be one of an operation that neither asks for a slot nor frees one. -/
def isEdit : Event → Bool
  | register _ | connect .. | resize .. | retune _ | reset _ | withdraw _ | reinstate _ | archive _
  | split _ | progress _ | flush => true
  | _ => false

/-- Every change of a unit is followed by a flush. -/
def Settled : List Event → Prop
  | [] => True
  | e :: es => (e.isQuiet = true ∨ .flush ∈ e :: es) ∧ Settled es

variable {es es' : List Event}

theorem settled_of_quiet (h : ∀ e ∈ es, e.isQuiet = true) : Settled es := by
  induction es with
  | nil => trivial
  | cons e es ih =>
      exact ⟨.inl (h e List.mem_cons_self), ih fun d hd => h d (List.mem_cons_of_mem e hd)⟩

theorem Settled.append (h : Settled es) (h' : Settled es') : Settled (es ++ es') := by
  induction es with
  | nil => exact h'
  | cons e es ih =>
      refine ⟨h.1.imp_right ?_, ih h.2⟩
      intro hmem
      rcases List.mem_cons.1 hmem with rfl | hmem
      · exact List.mem_cons_self
      · exact List.mem_cons_of_mem e (List.mem_append_left es' hmem)

/-- A flush at the end settles everything before it. -/
theorem settled_snoc_flush (es : List Event) : Settled (es ++ [.flush]) := by
  induction es with
  | nil => exact ⟨.inr List.mem_cons_self, trivial⟩
  | cons e es ih => exact ⟨.inr (List.mem_append_right (e :: es) List.mem_cons_self), ih⟩

theorem isRequest_of_isPromotion {e : Event} (h : e.isPromotion = true) : e.isRequest = false := by
  cases e <;> first | rfl | cases h

theorem isRequest_of_isEdit {e : Event} (h : e.isEdit = true) : e.isRequest = false := by
  cases e <;> first | rfl | cases h

theorem admissions_of_isEdit (h : ∀ e ∈ es, e.isEdit = true) : admissions es = [] := by
  refine List.filterMap_eq_nil_iff.2 fun e he => ?_
  have edit := h e he
  cases e <;> first | rfl | cases edit

end Event

namespace Session

variable {σ α : Type} [Storage σ]

/-- The events of an operation that answers no request for a slot: they lead from its start to its
end, make the admissions that it hands out, and leave no change unflushed. -/
structure Account (given : α → List Admission) (s : Session σ)
    (ended : Except Refusal α × Session σ) (es : List Event) : Prop where
  trace : Trace s es ended.2
  given : ∀ a, ended.1 = .ok a → given a = Event.admissions es
  settled : Event.Settled es
  internal : ∀ e ∈ es, e.isRequest = false

variable {given : α → List Admission} {s t : Session σ} {es es' : List Event} {refusal : Refusal}

theorem Account.refused : Account given s (.error refusal, s) [] :=
  ⟨.nil, by simp, trivial, by simp⟩

theorem Account.quiet {ended : Except Refusal α × Session σ} {e : Event} (step : Step s e ended.2)
    (quiet : e.isQuiet = true) (internal : e.isRequest = false)
    (nothing : ∀ a, ended.1 = .ok a → given a = []) : Account given s ended [e] := by
  have silent : e.admission? = none := by cases e <;> first | rfl | cases quiet
  refine ⟨step.trace, ?_, ⟨.inl quiet, trivial⟩, by simpa using internal⟩
  intro a ha
  rw [nothing a ha]
  simp [silent]

/-- The events of an operation that neither asks for a slot nor frees one. -/
structure Edited (s : Session σ) (ended : Except Refusal α × Session σ) (es : List Event) : Prop where
  trace : Trace s es ended.2
  settled : Event.Settled es
  edits : ∀ e ∈ es, e.isEdit = true

theorem Edited.account {ended : Except Refusal α × Session σ} (h : Edited s ended es)
    (nothing : ∀ a, ended.1 = .ok a → given a = []) : Account given s ended es where
  trace := h.trace
  given a ha := (nothing a ha).trans (Event.admissions_of_isEdit h.edits).symm
  settled := h.settled
  internal e he := Event.isRequest_of_isEdit (h.edits e he)

/-- Either the events lead to the end, or the operation is refused and nothing has happened. -/
inductive Atomic (s : Session σ) (es : List Event) : Except Refusal α × Session σ → Prop
  | refused {refusal : Refusal} : Atomic s es (.error refusal, s)
  | done {a : α} {t : Session σ} (trace : Trace s es t) : Atomic s es (.ok a, t)

/-- A unit is taken out, if need be after it was withdrawn from the queue. If that is refused then a
launch that was withdrawn is put back. -/
inductive Retired (s : Session σ) (id : UnitId) (e : Event) :
    Except Refusal α × Session σ → List Event → Prop
  | refused {refusal : Refusal} {es : List Event} {t : Session σ} (trace : Trace s es t)
      (back : es = [] ∨ es = [.reinstate id]) : Retired s id e (.error refusal, t) es
  | done {a : α} {es : List Event} {t : Session σ} (trace : Trace s (es ++ [e, .flush]) t)
      (withdrawn : es = [] ∨ es = [.withdraw id]) : Retired s id e (.ok a, t) (es ++ [e, .flush])

theorem Step.flushed {e : Event} (step : Step s e t) : Trace s [e, .flush] t.flushed :=
  .cons step (Step.trace .flush)

theorem Atomic.edited {ended : Except Refusal α × Session σ} (h : Atomic s es ended)
    (settled : Event.Settled es) (edits : ∀ e ∈ es, e.isEdit = true) : ∃ es, Edited s ended es := by
  cases h with
  | refused => exact ⟨[], .nil, trivial, by simp⟩
  | done trace => exact ⟨es, trace, settled, edits⟩

theorem Retired.edited {id : UnitId} {e : Event} {ended : Except Refusal α × Session σ}
    (h : Retired s id e ended es) (edit : e.isEdit = true) : Edited s ended es := by
  cases h with
  | refused trace back =>
      refine ⟨trace, Event.settled_of_quiet ?_, ?_⟩
      · rcases back with rfl | rfl <;> simp [Event.isQuiet]
      · rcases back with rfl | rfl <;> simp [Event.isEdit]
  | @done _ es _ trace withdrawn =>
      refine ⟨trace, ?_, List.forall_mem_append.2 ⟨?_, by simpa [Event.isEdit] using edit⟩⟩
      · have := Event.settled_snoc_flush (es ++ [e])
        rwa [List.append_assoc] at this
      · rcases withdrawn with rfl | rfl <;> simp [Event.isEdit]

end Session

end BuildAdmission
