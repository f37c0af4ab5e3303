import BuildAdmission.Proofs.Graph.Units
import BuildAdmission.Scheduler.Basic

namespace BuildAdmission

namespace Session

variable {σ : Type}

def change (s : Session σ) (f : Scheduler → Scheduler) : Session σ :=
  { s with scheduler := f s.scheduler }

def withStorage (s : Session σ) (storage : σ) : Session σ := { s with storage }

def log (s : Session σ) (id : UnitId) (action : AuditAction) (detail : Option String) : Session σ :=
  { s with trail := s.trail ++ [⟨id, action, detail⟩] }

def flushed [Storage σ] (s : Session σ) : Session σ :=
  s.withStorage (Storage.flush s.scheduler.graph.records s.storage).2

@[simp] theorem change_scheduler (s : Session σ) (f : Scheduler → Scheduler) :
    (s.change f).scheduler = f s.scheduler := rfl

@[simp] theorem change_storage (s : Session σ) (f : Scheduler → Scheduler) :
    (s.change f).storage = s.storage := rfl

@[simp] theorem withStorage_scheduler (s : Session σ) (storage : σ) :
    (s.withStorage storage).scheduler = s.scheduler := rfl

@[simp] theorem withStorage_storage (s : Session σ) (storage : σ) :
    (s.withStorage storage).storage = storage := rfl

@[simp] theorem withStorage_date (s : Session σ) (storage : σ) :
    (s.withStorage storage).date = s.date := rfl

@[simp] theorem log_scheduler (s : Session σ) (id : UnitId) (action : AuditAction)
    (detail : Option String) : (s.log id action detail).scheduler = s.scheduler := rfl

@[simp] theorem foldl_log_scheduler (ids : List UnitId) (action : AuditAction)
    (detail : Option String) (s : Session σ) :
    (ids.foldl (fun s id => s.log id action detail) s).scheduler = s.scheduler := by
  induction ids generalizing s with
  | nil => rfl
  | cons id ids ih => exact ih _

@[simp] theorem foldl_log_storage (ids : List UnitId) (action : AuditAction)
    (detail : Option String) (s : Session σ) :
    (ids.foldl (fun s id => s.log id action detail) s).storage = s.storage := by
  induction ids generalizing s with
  | nil => rfl
  | cons id ids ih => exact ih _

@[simp] theorem flushed_scheduler [Storage σ] (s : Session σ) :
    s.flushed.scheduler = s.scheduler := rfl

end Session

namespace Op

variable {σ τ α β : Type}

@[simp] theorem run_pure (a : α) (s : τ) :
    (pure a : ExceptT Refusal (StateM τ) α).run s = (.ok a, s) := rfl

@[simp] theorem run_liftM (x : Except Refusal α) (s : τ) :
    (liftM x : ExceptT Refusal (StateM τ) α).run s = (x, s) := rfl

theorem run_state_bind (x : StateM τ α) (f : α → StateM τ β) (s : τ) :
    (x >>= f) s = f (x s).1 (x s).2 := rfl

theorem run_bind (x : ExceptT Refusal (StateM τ) α) (f : α → ExceptT Refusal (StateM τ) β) (s : τ) :
    (x >>= f).run s = match x.run s with
      | (.ok a, t) => (f a).run t
      | (.error e, t) => (.error e, t) := by
  rw [ExceptT.run_bind, run_state_bind]
  rcases x.run s with ⟨e | a, t⟩ <;> rfl

section

variable {x : ExceptT Refusal (StateM τ) α} {f : α → ExceptT Refusal (StateM τ) β} {s t : τ}

theorem run_bind_ok {a : α} (h : x.run s = (.ok a, t)) : (x >>= f).run s = (f a).run t := by
  rw [run_bind, h]

theorem run_bind_error {e : Refusal} (h : x.run s = (.error e, t)) :
    (x >>= f).run s = (.error e, t) := by
  rw [run_bind, h]

theorem run_bind_eq_ok_iff {b : β} :
    (x >>= f).run s = (.ok b, t) ↔ ∃ a r, x.run s = (.ok a, r) ∧ (f a).run r = (.ok b, t) := by
  rw [run_bind]
  rcases x.run s with ⟨e | a, r⟩
  · constructor
    · intro h
      cases h
    · rintro ⟨_, _, h, _⟩
      cases h
  · constructor
    · intro h
      exact ⟨a, r, rfl, h⟩
    · rintro ⟨_, _, h, h'⟩
      cases h
      exact h'

end

theorem run_tryCatch (x : ExceptT Refusal (StateM τ) α) (f : Refusal → ExceptT Refusal (StateM τ) α)
    (s : τ) :
    (tryCatch x f).run s = match x.run s with
      | (.ok a, t) => (.ok a, t)
      | (.error e, t) => (f e).run t := by
  rw [ExceptT.run_tryCatch, run_state_bind]
  rcases x.run s with ⟨e | a, t⟩ <;> rfl

theorem run_attempt (x : ExceptT Refusal (StateM τ) Unit) (s : τ) :
    (tryCatch x fun _ => pure ()).run s = (.ok (), (x.run s).2) := by
  rw [run_tryCatch]
  rcases x.run s with ⟨e | _, t⟩ <;> rfl

theorem run_map (f : α → β) (x : ExceptT Refusal (StateM τ) α) (s : τ) :
    (f <$> x).run s = ((x.run s).1.map f, (x.run s).2) := by
  rw [map_eq_pure_bind, run_bind]
  rcases x.run s with ⟨e | a, t⟩ <;> rfl

theorem run_map_eq_ok_iff {f : α → β} {x : ExceptT Refusal (StateM τ) α} {s t : τ} {b : β} :
    (f <$> x).run s = (.ok b, t) ↔ ∃ a, x.run s = (.ok a, t) ∧ f a = b := by
  rw [map_eq_pure_bind, run_bind_eq_ok_iff]
  constructor
  · rintro ⟨a, r, h, h'⟩
    cases h'
    exact ⟨a, h, rfl⟩
  · rintro ⟨a, h, rfl⟩
    exact ⟨a, t, h, rfl⟩

/-- What every item keeps, all of them keep one after the other, and each result is that of an
item. -/
theorem run_mapM {f : α → ExceptT Refusal (StateM τ) β} {P : τ → Prop} {Q : α → β → Prop}
    (step : ∀ a b s t, (f a).run s = (.ok b, t) → P s → P t ∧ Q a b) {as : List α} {bs : List β}
    {s t : τ} (h : (as.mapM f).run s = (.ok bs, t)) (hs : P s) :
    P t ∧ (∀ b ∈ bs, ∃ a ∈ as, Q a b) ∧ ∀ a ∈ as, ∃ b ∈ bs, Q a b := by
  induction as generalizing bs s with
  | nil =>
      cases h
      exact ⟨hs, by simp, by simp⟩
  | cons a as ih =>
      rw [List.mapM_cons] at h
      obtain ⟨b, r, ha, h⟩ := run_bind_eq_ok_iff.1 h
      obtain ⟨cs, r', has, h⟩ := run_bind_eq_ok_iff.1 h
      cases h
      obtain ⟨hr, hb⟩ := step a b s r ha hs
      obtain ⟨ht, results, items⟩ := ih has hr
      refine ⟨ht, List.forall_mem_cons.2 ⟨⟨a, List.mem_cons_self, hb⟩, ?_⟩,
        List.forall_mem_cons.2 ⟨⟨b, List.mem_cons_self, hb⟩, ?_⟩⟩
      · intro c hc
        obtain ⟨d, hd, hdc⟩ := results c hc
        exact ⟨d, List.mem_cons_of_mem _ hd, hdc⟩
      · intro d hd
        obtain ⟨c, hc, hdc⟩ := items d hd
        exact ⟨c, List.mem_cons_of_mem _ hc, hdc⟩

/-- If every item gives its result wherever `P` holds, and keeps it, then the items give theirs. -/
theorem run_mapM_ok {f : α → ExceptT Refusal (StateM τ) β} {P : τ → Prop} {g : α → β}
    {as : List α} (step : ∀ a ∈ as, ∀ s, P s → ∃ t, (f a).run s = (.ok (g a), t) ∧ P t) {s : τ}
    (hs : P s) : ∃ t, (as.mapM f).run s = (.ok (as.map g), t) ∧ P t := by
  induction as generalizing s with
  | nil => exact ⟨s, rfl, hs⟩
  | cons a as ih =>
      obtain ⟨first, others⟩ := List.forall_mem_cons.1 step
      obtain ⟨r, ha, hr⟩ := first s hs
      obtain ⟨t, has, ht⟩ := ih others hr
      refine ⟨t, ?_, ht⟩
      rw [List.mapM_cons, run_bind_ok ha, run_bind_ok has]
      rfl

/-! ### Steps of a session -/

@[simp] theorem run_get (s : Session σ) : (get : Op σ (Session σ)).run s = (.ok s, s) := rfl

@[simp] theorem run_scheduler (s : Session σ) :
    (scheduler : Op σ Scheduler).run s = (.ok s.scheduler, s) := rfl

@[simp] theorem run_change (f : Scheduler → Scheduler) (s : Session σ) :
    (change f : Op σ Unit).run s = (.ok (), s.change f) := rfl

@[simp] theorem run_record (id : UnitId) (action : AuditAction) (detail : Option String)
    (s : Session σ) :
    (record id action detail : Op σ Unit).run s = (.ok (), s.log id action detail) := rfl

theorem run_forIn_record (ids : List UnitId) (action : AuditAction) (detail : Option String)
    (s : Session σ) :
    (forIn ids ⟨⟩ fun id _ => do
      record id action detail
      return ForInStep.yield ⟨⟩ : Op σ PUnit).run s =
      (.ok ⟨⟩, ids.foldl (fun s id => s.log id action detail) s) := by
  induction ids generalizing s with
  | nil => rfl
  | cons id ids ih =>
      rw [List.forIn_cons, bind_assoc, run_bind_ok (run_record ..), pure_bind]
      exact ih _

@[simp] theorem run_ofStorage (call : StateM σ (Except Refusal α)) (s : Session σ) :
    (ofStorage call : Op σ α).run s = ((call s.storage).1, s.withStorage (call s.storage).2) := rfl

@[simp] theorem run_edit (f : Graph → Except Refusal (α × Graph)) (s : Session σ) :
    (edit f : Op σ α).run s = match f s.scheduler.graph with
      | .ok (a, graph) => (.ok a, s.change fun s => { s with graph })
      | .error e => (.error e, s) := by
  rw [edit, run_bind, run_scheduler]
  simp only [run_bind, run_liftM]
  rcases f s.scheduler.graph with e | ⟨a, graph⟩ <;> rfl

@[simp] theorem run_persist [Storage σ] (s : Session σ) :
    (persist : Op σ Unit).run s = (.ok (), s.flushed) := by
  rw [persist, run_bind, run_scheduler]
  exact run_attempt ..

end Op

end BuildAdmission
