import BuildAdmission.Proofs.Session.Operation
import BuildAdmission.Scheduler.Transition

namespace BuildAdmission

/-- One storage shows what another does: every call answers the same in both. -/
structure Storage.View {τ σ : Type} [Storage τ] [Storage σ] (view : τ → σ) : Prop where
  latest? : ∀ id v, Storage.latest? id (view v) =
    ((Storage.latest? id v).1, view (Storage.latest? id v).2)
  save : ∀ c v, Storage.save c (view v) = ((Storage.save c v).1, view (Storage.save c v).2)
  deleteAll : ∀ id v, Storage.deleteAll id (view v) =
    ((Storage.deleteAll id v).1, view (Storage.deleteAll id v).2)
  load : ∀ v, Storage.load (view v) = ((Storage.load v).1, view (Storage.load v).2)
  flush : ∀ us v, Storage.flush us (view v) = ((Storage.flush us v).1, view (Storage.flush us v).2)

def Session.map {τ σ : Type} (view : τ → σ) (s : Session τ) : Session σ :=
  ⟨s.scheduler, view s.storage, s.trail, s.clock, s.date⟩

namespace Op

variable {τ σ α β : Type} {view : τ → σ} {x : Op τ α} {y : Op σ α} {f : α → Op τ β} {g : α → Op σ β}

/-- The one operation does in the view what the other does. -/
def Shows (view : τ → σ) (x : Op τ α) (y : Op σ α) : Prop :=
  ∀ s, y.run (s.map view) = ((x.run s).1, (x.run s).2.map view)

theorem Shows.bind (h : Shows view x y) (hfg : ∀ a, Shows view (f a) (g a)) :
    Shows view (x >>= f) (y >>= g) := by
  intro s
  rw [run_bind, run_bind, h s]
  rcases x.run s with ⟨refusal | a, t⟩
  · rfl
  · exact hfg a t

theorem Shows.get {f : Session τ → Op τ β} {g : Session σ → Op σ β}
    (h : ∀ s, Shows view (f s) (g (s.map view))) :
    Shows view (MonadState.get >>= f) (MonadState.get >>= g) :=
  fun s => h s s

theorem Shows.tryCatch (h : Shows view x y) {f : Refusal → Op τ α} {g : Refusal → Op σ α}
    (hfg : ∀ refusal, Shows view (f refusal) (g refusal)) :
    Shows view (tryCatch x f) (tryCatch y g) := by
  intro s
  rw [run_tryCatch, run_tryCatch, h s]
  rcases x.run s with ⟨refusal | a, t⟩
  · exact hfg refusal t
  · rfl

theorem Shows.map (h : Shows view x y) (f : α → β) : Shows view (f <$> x) (f <$> y) := by
  intro s
  rw [run_map, run_map, h s]

theorem Shows.mapM {f : α → Op τ β} {g : α → Op σ β} (h : ∀ a, Shows view (f a) (g a))
    (as : List α) : Shows view (as.mapM f) (as.mapM g) := by
  induction as with
  | nil => exact fun _ => rfl
  | cons a as ih =>
      rw [List.mapM_cons, List.mapM_cons]
      exact (h a).bind fun _ => ih.bind fun _ _ => rfl

theorem shows_ofStorage {call : StateM τ (Except Refusal α)} {call' : StateM σ (Except Refusal α)}
    (h : ∀ v, call' (view v) = ((call v).1, view (call v).2)) :
    Shows view (ofStorage call) (ofStorage call') := by
  intro s
  have shown := h s.storage
  rw [run_ofStorage, run_ofStorage, Session.map, shown]
  rfl

variable [Storage τ] [Storage σ] (h : Storage.View view)
include h

theorem shows_persist : Shows view (persist : Op τ Unit) persist :=
  .bind (fun _ => rfl) fun s => .tryCatch (shows_ofStorage (h.flush s.graph.records)) fun _ _ => rfl

theorem shows_giveSlot (id : UnitId) (task : LaunchTask) :
    Shows view (giveSlot id task) (giveSlot id task) :=
  .bind (shows_ofStorage (h.latest? id)) fun _ => .get fun _ => .bind (fun _ => rfl) fun _ =>
    .bind (fun _ => rfl) fun _ _ => rfl

theorem shows_promoteUpTo (count : Nat) : Shows view (promoteUpTo count) (promoteUpTo count) := by
  induction count with
  | zero => exact fun _ => rfl
  | succ count ih =>
      unfold promoteUpTo
      refine .bind (fun _ => rfl) fun s => ?_
      split
      · exact fun _ => rfl
      · split
        · refine .bind (fun _ => rfl) fun _ => ?_
          split
          · split
            · exact .bind (fun _ => rfl) fun _ => ih
            · exact .bind (fun _ => rfl) fun _ => ih
            · refine .bind ?_ fun admission => ?_
              · exact ((shows_giveSlot h _ _).map some).tryCatch fun _ _ => rfl
              · cases admission with
                | none => exact fun _ => rfl
                | some admission => exact .bind (fun _ => rfl) fun _ => .bind ih fun _ _ => rfl
          · exact ih
        · exact fun _ => rfl

theorem shows_conclude (id : UnitId) (status : Status) :
    Shows view (conclude id status) (conclude id status) :=
  .bind (.bind (fun _ => rfl) fun s => shows_promoteUpTo h s.queue.size) fun _ =>
    .bind (shows_persist h) fun _ _ => rfl

omit [Storage τ] [Storage σ] h in
theorem shows_expectRunning (id : UnitId) (target : Status) :
    Shows view (expectRunning id target) (expectRunning id target) := by
  refine .bind (fun _ => rfl) fun s => .bind (fun _ => rfl) fun u => ?_
  cases s.running.find? id with
  | none => exact fun _ => rfl
  | some running =>
      by_cases status : u.status = .running
      · simp only [status]
        exact fun _ => rfl
      · simp only [if_pos (show u.status ≠ .running from status)]
        exact fun _ => rfl

theorem shows_completed (id : UnitId) : Shows view (completed id) (completed id) :=
  .bind (shows_expectRunning id _) fun _ => .bind (fun _ => rfl) fun _ =>
    .bind (.tryCatch (shows_ofStorage (h.deleteAll id)) fun _ _ => rfl) fun _ =>
      .bind (fun _ => rfl) fun _ => shows_conclude h id _

theorem shows_suspended (id : UnitId) (data : CheckpointData) :
    Shows view (suspended id data) (suspended id data) :=
  .bind (shows_expectRunning id _) fun _ => .bind (shows_ofStorage (h.latest? id)) fun _ =>
    .get fun _ => .bind (shows_ofStorage (h.save _)) fun _ => .bind (fun _ => rfl) fun _ =>
      .bind (fun _ => rfl) fun _ => shows_conclude h id _

theorem shows_failed (id : UnitId) (reason : String) :
    Shows view (failed id reason) (failed id reason) := by
  refine .bind (shows_expectRunning id _) fun _ => .bind (fun _ => rfl) fun s =>
    .bind (fun _ => rfl) fun u => ?_
  split
  · exact .bind (fun _ => rfl) fun _ => .bind (fun _ => rfl) fun _ => shows_conclude h id _
  · exact .bind (fun _ => rfl) fun _ => .bind (fun _ => rfl) fun _ => shows_conclude h id _

theorem shows_applyOutcome (id : UnitId) (ticket : Nat) (outcome : Outcome) :
    Shows view (applyOutcome id ticket outcome) (applyOutcome id ticket outcome) := by
  refine .bind (fun _ => rfl) fun s => ?_
  split
  · cases outcome with
    | completed => exact (shows_completed h id).map some
    | failed reason => exact (shows_failed h id reason).map some
    | suspended data => exact (shows_suspended h id data).map some
  · exact fun _ => rfl

theorem shows_expireIdle (now : Nat) : Shows view (expireIdle now) (expireIdle now) :=
  .bind (fun _ => rfl) fun _ => .mapM
    (fun id => .bind (fun _ => rfl) fun _ => shows_failed h id _) _

end Op

end BuildAdmission
