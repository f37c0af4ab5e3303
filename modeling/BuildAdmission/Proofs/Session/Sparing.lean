import BuildAdmission.Proofs.Session.Untouched

namespace BuildAdmission

/-- Whether the event may touch the stored checkpoints. -/
def Event.isDeposit : Event → Bool
  | .suspend .. | .complete _ => true
  | _ => false

namespace Session

variable {σ : Type} [Storage σ] {good : σ → Prop} {stored : σ → UnitId → List Checkpoint}
  {m n : Session σ} {e : Event} {es : List Event}

theorem Step.spares (careful : Storage.Careful good stored) (h : Step m e n) (hm : good m.storage)
    (other : e.isDeposit = false) : good n.storage ∧ stored n.storage = stored m.storage := by
  have touch := h.touch
  generalize n.storage = v at touch
  cases touch with
  | untouched => exact ⟨hm, rfl⟩
  | read read => exact careful.read read hm
  | saved => cases other
  | unsaved read saved =>
      obtain ⟨hr, same⟩ := careful.read read hm
      obtain ⟨hs, same'⟩ := careful.saved saved hr
      exact ⟨hs, (same' _ rfl).trans same⟩
  | deleted => cases other
  | flushed => exact careful.flush _ _ hm

theorem Trace.spares (careful : Storage.Careful good stored) (h : Trace m es n) (hm : good m.storage)
    (others : ∀ e ∈ es, e.isDeposit = false) :
    good n.storage ∧ stored n.storage = stored m.storage := by
  induction h with
  | nil => exact ⟨hm, rfl⟩
  | cons step rest ih =>
      obtain ⟨hn, same⟩ := step.spares careful hm (others _ List.mem_cons_self)
      obtain ⟨hn', same'⟩ := ih hn fun e he => others e (List.mem_cons_of_mem _ he)
      exact ⟨hn', same'.trans same⟩

theorem isDeposit_of_isPromotion (h : e.isPromotion = true) : e.isDeposit = false := by
  cases e <;> first | rfl | cases h

end Session

end BuildAdmission
