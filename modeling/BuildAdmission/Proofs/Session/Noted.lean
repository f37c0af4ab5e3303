import BuildAdmission.Proofs.Session.Run
import BuildAdmission.Proofs.Storage.View

namespace BuildAdmission

/-- A storage of which it is noted whether one of the given calls has failed. -/
structure Noted (names : List StorageCall) (σ : Type) where
  inner : σ
  failed : Bool

namespace Noted

variable {σ α : Type} {names : List StorageCall} {name : StorageCall} {v w : Noted names σ}
  {act : StateM σ (Except Refusal α)} {result : Except Refusal α} {refusal : Refusal}

def note (name : StorageCall) (act : StateM σ (Except Refusal α)) :
    StateM (Noted names σ) (Except Refusal α) := fun v =>
  let (result, inner) := act v.inner
  (result, ⟨inner, v.failed || (decide (name ∈ names) && result.toOption.isNone)⟩)

instance [Storage σ] : Storage (Noted names σ) where
  latest? id := note .loadLatest (Storage.latest? id)
  save c := note .save (Storage.save c)
  deleteAll id := note .deleteAll (Storage.deleteAll id)
  load := note .load Storage.load
  flush us := note .flush (Storage.flush us)

theorem view_inner [Storage σ] : Storage.View (Noted.inner : Noted names σ → σ) := by
  constructor <;> intros <;> rfl

theorem failed_of_error (refused : note name act v = (.error refusal, w)) (watched : name ∈ names) :
    w.failed = true := by
  obtain ⟨unanswered, rfl⟩ := Prod.mk.inj refused
  have unanswered : (act v.inner).1 = .error refusal := unanswered
  simp [unanswered, watched, Except.toOption]

theorem failed_stays (called : note name act v = (result, w)) (hv : v.failed = true) :
    w.failed = true := by
  cases called
  exact Bool.or_eq_true_iff.2 (.inl hv)

end Noted

namespace Session

variable {σ : Type} {names : List StorageCall}

/-- The same session, where the failures of the given calls are noted from now on. -/
def noted (names : List StorageCall) (s : Session σ) : Session (Noted names σ) :=
  s.map (⟨·, false⟩)

variable [Storage σ] {m n : Session (Noted names σ)} {e : Event} {es : List Event} {id : UnitId}

/-- What was noted stays so. -/
theorem Step.failed (h : Step m e n) (hm : m.storage.failed = true) : n.storage.failed = true := by
  have touch := h.touch
  generalize n.storage = v at touch
  cases touch with
  | untouched => exact hm
  | read read => exact Noted.failed_stays read hm
  | saved read saved => exact Noted.failed_stays saved (Noted.failed_stays read hm)
  | unsaved read saved => exact Noted.failed_stays saved (Noted.failed_stays read hm)
  | deleted => exact Noted.failed_stays rfl hm
  | flushed => exact Noted.failed_stays rfl hm

theorem Step.lost (h : Step m e n) (watched : [.loadLatest, .save] ⊆ names)
    (lost : e = .unread id ∨ e = .unsaved id) : n.storage.failed = true := by
  rcases lost with rfl | rfl
  · cases h with
    | unread read => exact Noted.failed_of_error read (watched (by decide))
  · cases h with
    | unsaved read save => exact Noted.failed_of_error save (watched (by decide))

theorem Trace.failed (h : Trace m es n) (hm : m.storage.failed = true) : n.storage.failed = true :=
  h.invariant (P := fun m => m.storage.failed = true) (fun _ _ _ step => step.failed) hm

end Session

/-- One of the given calls of the storage fails during the call. -/
def Call.fails {σ : Type} [Storage σ] (names : List StorageCall) (c : Call σ) : Bool :=
  ((c.before.noted names).call c.command).after.storage.failed

end BuildAdmission
