import BuildAdmission.Proofs.Graph.Split
import Mathlib.Logic.Function.Basic

namespace BuildAdmission

/-- What the queue and the slots know of a unit: its status and priority while it waits or runs. -/
def WorkUnit.standing (u : WorkUnit) : Option (Status × Int32) :=
  if u.status.isActive then some (u.status, u.priority) else none

theorem WorkUnit.standing_eq_none {u : WorkUnit} (h : u.status.isActive = false) :
    u.standing = none := by
  rw [WorkUnit.standing, h]
  rfl

theorem WorkUnit.isActive_of_idle {u : WorkUnit}
    (idle : u.status = .pending ∨ u.status = .checkpointed) : u.status.isActive = false :=
  idle.elim (congrArg Status.isActive) (congrArg Status.isActive)

namespace Graph

variable {g g' : Graph} {id : UnitId} {u : WorkUnit} {p : Int32}

def standing (g : Graph) (id : UnitId) : Option (Status × Int32) :=
  (g.unit? id).bind WorkUnit.standing

theorem standing_of_live (live : g.unit? id = some u) : g.standing id = u.standing := by
  rw [standing, live]
  rfl

theorem standing_of_absent (absent : g.unit? id = none) : g.standing id = none := by
  rw [standing, absent]
  rfl

theorem standing_of_rest (live : g.unit? id = some u) (rest : u.status.isActive = false) :
    g.standing id = none := by
  rw [standing_of_live live, WorkUnit.standing_eq_none rest]

theorem standing_eq_some_iff {status : Status} :
    g.standing id = some (status, p) ↔
      status.isActive = true ∧ ∃ u, g.unit? id = some u ∧ u.status = status ∧ u.priority = p := by
  unfold standing WorkUnit.standing
  cases g.unit? id with
  | none => simp
  | some u =>
      by_cases active : u.status.isActive = true
      · simp only [Option.bind_some, active, if_true, Option.some.injEq, Prod.mk.injEq,
          exists_eq_left']
        constructor
        · rintro ⟨rfl, rfl⟩
          exact ⟨active, rfl, rfl⟩
        · exact fun h => h.2
      · simp only [Option.bind_some, active, Option.some.injEq, exists_eq_left']
        constructor
        · intro h
          cases h
        · rintro ⟨h, rfl, _⟩
          exact absurd h active

theorem standing_queued_iff :
    g.standing id = some (.queued, p) ↔
      ∃ u, g.unit? id = some u ∧ u.status = .queued ∧ u.priority = p := by
  rw [standing_eq_some_iff]
  exact and_iff_right rfl

theorem standing_running_iff :
    g.standing id = some (.running, p) ↔
      ∃ u, g.unit? id = some u ∧ u.status = .running ∧ u.priority = p := by
  rw [standing_eq_some_iff]
  exact and_iff_right rfl

theorem standing_update {f : WorkUnit → WorkUnit} (live : g.unit? id = some u) :
    (g.update id f).standing = Function.update g.standing id (f u).standing := by
  funext k
  by_cases hk : k = id
  · subst hk
    rw [Function.update_self, standing, unit?_update, if_pos rfl, live]
    rfl
  · rw [Function.update_of_ne hk, standing, unit?_update, if_neg hk]
    rfl

theorem standing_update_of_eq {f : WorkUnit → WorkUnit}
    (same : ∀ u, g.unit? id = some u → (f u).standing = u.standing) :
    (g.update id f).standing = g.standing := by
  funext k
  by_cases hk : k = id
  · subst hk
    rw [standing, unit?_update, if_pos rfl]
    cases live : g.unit? k with
    | none => exact (standing_of_absent live).symm
    | some u => exact (same u live).trans (standing_of_live live).symm
  · rw [standing, unit?_update, if_neg hk]
    rfl

theorem standing_addUnit (h : g.addUnit u = .ok g')
    (status : u.status = .pending ∨ u.status = .complete) : g'.standing = g.standing := by
  obtain ⟨taken, _, rfl⟩ := addUnit_eq_ok h
  funext k
  rw [standing, unit?, IdMap.find?_insert]
  split
  · next hk =>
    rw [hk, standing_of_absent (isTaken_eq_false_iff.1 taken).1]
    refine WorkUnit.standing_eq_none ?_
    rcases status with status | status <;> exact congrArg Status.isActive status
  · rfl

theorem standing_addEdge {source target : UnitId} (h : g.addEdge source target = .ok g') :
    g'.standing = g.standing := by
  obtain ⟨u, _, _, rfl⟩ := addEdge_eq_ok h
  exact standing_update_of_eq fun _ _ => rfl

theorem standing_archive (h : g.archive id = .ok (u, g')) :
    g'.standing = Function.update g.standing id none := by
  obtain ⟨v, _, _, rfl, rfl⟩ := archive_eq_ok h
  funext k
  rw [standing, unit?, IdMap.find?_erase]
  by_cases hk : k = id
  · rw [hk, if_pos rfl, Function.update_self]
    rfl
  · rw [if_neg hk, Function.update_of_ne hk]
    rfl

theorem standing_rewire (g : Graph) (p : SplitPlan) (dependents : List UnitId) :
    (g.rewire p dependents).standing = g.standing := by
  funext k
  rw [standing, unit?_rewire]
  split
  · rw [standing, Option.bind_map]
    rfl
  · rfl

/-- The parts of a split are new and pending, so only the whole goes. -/
theorem standing_split {plan : SplitPlan} {ids : List UnitId} (h : g.split plan = .ok (ids, g')) :
    g'.standing = Function.update g.standing plan.whole none := by
  obtain ⟨whole, live, names, _, _, _, rfl⟩ := split_eq_ok h
  rw [standing_rewire]
  funext k
  by_cases hpart : k ∈ plan.partIds
  · obtain ⟨v, _, _, hv⟩ := unit?_withParts_of_mem g whole hpart
    have absent : g.unit? k = none := (isTaken_eq_false_iff.1 (isTaken_part names hpart)).1
    have hk : k ≠ plan.whole := by
      rintro rfl
      rw [live] at absent
      cases absent
    rw [standing_of_live hv, Function.update_of_ne hk, standing_of_absent absent]
    rfl
  · rw [standing, unit?_withParts hpart]
    by_cases hk : k = plan.whole
    · rw [hk, if_pos rfl, Function.update_self]
      rfl
    · rw [if_neg hk, Function.update_of_ne hk]
      rfl

end Graph

end BuildAdmission
