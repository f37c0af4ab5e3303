import BuildAdmission.Graph.Order
import BuildAdmission.Proofs.IdSet

namespace BuildAdmission.WorkUnit

variable {u v w : WorkUnit} {us : List WorkUnit} {placed : List UnitId} {id : UnitId}

/-- The number of dependencies that are not placed yet. -/
def awaited (placed : List UnitId) (u : WorkUnit) : Nat :=
  (u.dependencies.toList.filter (· ∉ placed)).length

theorem awaited_eq_zero_iff : u.awaited placed = 0 ↔ ∀ d ∈ u.dependencies, d ∈ placed := by
  rw [awaited, List.length_eq_zero_iff, List.filter_eq_nil_iff]
  simp only [decide_eq_true_eq, not_not]
  rfl

theorem awaited_snoc (hd : id ∈ u.dependencies) (hnew : id ∉ placed) :
    u.awaited (placed ++ [id]) = u.awaited placed - 1 := by
  have hmem : id ∈ u.dependencies.toList.filter (· ∉ placed) :=
    List.mem_filter.2 ⟨hd, decide_eq_true hnew⟩
  have hrest : u.dependencies.toList.filter (· ∉ placed ++ [id]) =
      (u.dependencies.toList.filter (· ∉ placed)).erase id := by
    rw [(u.dependencies.nodup.filter _).erase_eq_filter, List.filter_filter]
    apply List.filter_congr
    intro d _
    by_cases hd : d = id <;> simp [hd]
  rw [awaited, hrest, List.length_erase_of_mem hmem, awaited]

theorem awaited_snoc_of_not_mem (hd : id ∉ u.dependencies) :
    u.awaited (placed ++ [id]) = u.awaited placed := by
  rw [awaited, awaited]
  congr 1
  apply List.filter_congr
  intro d hmem
  have hne : d ≠ id := by
    rintro rfl
    exact hd hmem
  simp [hne]

/-! ### The order of the units that are ready -/

theorem before_iff :
    u.before v = true ↔ u.priority < v.priority ∨ u.priority = v.priority ∧ u.id < v.id := by
  simp [before]

theorem before_irrefl (u : WorkUnit) : ¬ u.before u = true := by
  rw [before_iff]
  rintro (h | ⟨_, h⟩)
  · exact Int32.lt_irrefl h
  · exact String.lt_irrefl u.id h

theorem before_asymm (h : u.before v = true) : ¬ v.before u = true := by
  rw [before_iff] at h ⊢
  rintro (h' | ⟨he, h'⟩)
  · rcases h with h | ⟨he, _⟩
    · exact Int32.lt_asymm h h'
    · exact Int32.lt_irrefl (he ▸ h')
  · rcases h with h | ⟨_, h⟩
    · exact Int32.lt_irrefl (he ▸ h)
    · exact String.lt_asymm h h'

theorem before_trans (h : u.before v = true) (h' : v.before w = true) : u.before w = true := by
  rw [before_iff] at h h' ⊢
  rcases h with h | ⟨he, h⟩
  · rcases h' with h' | ⟨he', _⟩
    · exact .inl (Int32.lt_trans h h')
    · exact .inl (he' ▸ h)
  · rcases h' with h' | ⟨he', h'⟩
    · exact .inl (he ▸ h')
    · exact .inr ⟨he.trans he', String.lt_trans h h'⟩

theorem before_or_before (h : u.id ≠ v.id) : u.before v = true ∨ v.before u = true := by
  rw [before_iff, before_iff]
  by_cases hp : u.priority = v.priority
  · by_cases hlt : u.id < v.id
    · exact .inl (.inr ⟨hp, hlt⟩)
    · have hgt : v.id < u.id := by
        by_contra hle
        exact h (String.le_antisymm hle hlt)
      exact .inr (.inr ⟨hp.symm, hgt⟩)
  · rcases Int32.lt_or_lt_of_ne hp with hlt | hgt
    · exact .inl (.inl hlt)
    · exact .inr (.inl hgt)

theorem mem_insertByPriority : v ∈ insertByPriority u us ↔ v = u ∨ v ∈ us := by
  induction us with
  | nil => simp [insertByPriority]
  | cons w us ih =>
      unfold insertByPriority
      split
      · exact List.mem_cons
      · rw [List.mem_cons, ih, List.mem_cons]
        tauto

theorem mem_sortByPriority : v ∈ sortByPriority us ↔ v ∈ us := by
  induction us with
  | nil => rfl
  | cons u us ih =>
      rw [List.mem_cons, ← ih]
      exact mem_insertByPriority

theorem pairwise_insertByPriority (h : us.Pairwise (·.before · = true)) (hu : ∀ v ∈ us, u.id ≠ v.id) :
    (insertByPriority u us).Pairwise (·.before · = true) := by
  induction us with
  | nil => exact List.pairwise_singleton ..
  | cons v us ih =>
      obtain ⟨hv, hus⟩ := List.pairwise_cons.1 h
      unfold insertByPriority
      split
      · next huv =>
        refine List.pairwise_cons.2 ⟨?_, h⟩
        intro w hw
        rcases List.mem_cons.1 hw with rfl | hw
        · exact huv
        · exact before_trans huv (hv w hw)
      · next huv =>
        have hvu := (before_or_before (hu v List.mem_cons_self)).resolve_left huv
        refine List.pairwise_cons.2 ⟨?_, ih hus fun w hw => hu w (List.mem_cons_of_mem _ hw)⟩
        intro w hw
        rcases mem_insertByPriority.1 hw with rfl | hw
        · exact hvu
        · exact hv w hw

theorem pairwise_sortByPriority (h : us.Pairwise (·.id ≠ ·.id)) :
    (sortByPriority us).Pairwise (·.before · = true) := by
  induction us with
  | nil => exact .nil
  | cons u us ih =>
      obtain ⟨hu, hus⟩ := List.pairwise_cons.1 h
      exact pairwise_insertByPriority (ih hus) fun v hv => hu v (mem_sortByPriority.1 hv)

end BuildAdmission.WorkUnit
