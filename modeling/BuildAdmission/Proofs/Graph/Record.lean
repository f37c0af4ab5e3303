import BuildAdmission.Proofs.Graph.Built

namespace BuildAdmission.Graph

variable {g g' : Graph} {id k source target : UnitId} {u r : WorkUnit} {p : SplitPlan}
  {ids : List UnitId}

/-- The record of a unit, whether it is at work or was taken out. -/
def record? (g : Graph) (id : UnitId) : Option WorkUnit := (g.unit? id).or (g.archived.find? id)

theorem record?_of_live (live : g.unit? id = some u) : g.record? id = some u := by
  rw [record?, live, Option.some_or]

theorem record?_of_absent (absent : g.unit? id = none) : g.record? id = g.archived.find? id := by
  rw [record?, absent, Option.none_or]

theorem record?_of_mem (keyed : g.Keyed) (apart : g.Apart) (h : r ∈ g.records) :
    g.record? r.id = some r := by
  rcases List.mem_append.1 h with h | h
  · obtain ⟨k, live⟩ := mem_live_values.1 h
    rw [keyed.live k r live]
    exact record?_of_live live
  · obtain ⟨k, archived⟩ := IdMap.mem_values_iff.1 h
    rw [keyed.archived k r archived]
    cases live : g.unit? k with
    | none => rw [record?_of_absent live, archived]
    | some u => cases (apart k u live).symm.trans archived

/-- The unit is complete, also if it was taken out since. -/
def IsDone (g : Graph) (id : UnitId) : Prop := ∃ u, g.record? id = some u ∧ u.status = .complete

theorem IsDone.status_eq (h : g.IsDone id) (live : g.unit? id = some u) : u.status = .complete := by
  obtain ⟨v, hv, status⟩ := h
  cases (record?_of_live live).symm.trans hv
  exact status

theorem IsDone.status_of_mem (h : g.IsDone id) (keyed : g.Keyed) (apart : g.Apart)
    (hr : r ∈ g.records) (hid : r.id = id) : r.status = .complete := by
  subst hid
  obtain ⟨v, hv, status⟩ := h
  cases (record?_of_mem keyed apart hr).symm.trans hv
  exact status

/-! ### The status of a unit -/

/-- The status of a unit, also of one that was taken out. -/
def status? (g : Graph) (id : UnitId) : Option Status := (g.record? id).map (·.status)

theorem isDone_iff : g.IsDone id ↔ g.status? id = some .complete := Option.map_eq_some_iff.symm

theorem status?_of_live (live : g.unit? id = some u) : g.status? id = some u.status := by
  rw [status?, record?_of_live live, Option.map_some]

theorem status?_eq_none_iff : g.status? id = none ↔ g.isTaken id = false := by
  rw [status?, record?, Option.map_eq_none_iff, Option.or_eq_none_iff, isTaken_eq_false_iff]

theorem status?_update_of_ne (hk : id ≠ k) (f : WorkUnit → WorkUnit) :
    (g.update k f).status? id = g.status? id := by
  rw [status?, record?, unit?_update, if_neg hk]
  rfl

theorem status?_update {f : WorkUnit → WorkUnit} (hf : ∀ u, (f u).status = u.status) :
    (g.update k f).status? id = g.status? id := by
  by_cases hk : id = k
  · subst hk
    cases live : g.unit? id with
    | none =>
        rw [update_eq_self]
        intro u hu
        cases live.symm.trans hu
    | some u => rw [status?_of_live (unit?_update_self live), status?_of_live live, hf]
  · exact status?_update_of_ne hk f

theorem status?_addUnit (h : g.addUnit u = .ok g') (id : UnitId) :
    g'.status? id = if id = u.id then some u.status else g.status? id := by
  obtain ⟨_, _, rfl⟩ := addUnit_eq_ok h
  rw [status?, record?, unit?, IdMap.find?_insert]
  split
  · rfl
  · rfl

theorem status?_addEdge (h : g.addEdge source target = .ok g') : g'.status? id = g.status? id := by
  obtain ⟨_, _, _, rfl⟩ := addEdge_eq_ok h
  exact status?_update fun _ => rfl

/-- A unit that is taken out keeps its status. -/
theorem status?_retire (live : g.unit? k = some u) {m : IdMap WorkUnit} (gone : m.find? k = none)
    (others : id ≠ k → m.find? id = g.live.find? id) :
    (⟨m, g.archived.insert k { u with archived := true }⟩ : Graph).status? id = g.status? id := by
  rw [status?, record?, unit?, IdMap.find?_insert]
  by_cases hk : id = k
  · subst hk
    rw [gone, if_pos rfl, status?_of_live live]
    rfl
  · rw [others hk, if_neg hk]
    rfl

theorem status?_archive (h : g.archive k = .ok (u, g')) : g'.status? id = g.status? id := by
  obtain ⟨v, live, _, rfl, rfl⟩ := archive_eq_ok h
  exact status?_retire live (by rw [IdMap.find?_erase, if_pos rfl])
    fun hk => by rw [IdMap.find?_erase, if_neg hk]

theorem status?_rewire (dependents : List UnitId) :
    (g.rewire p dependents).status? id = g.status? id := by
  induction dependents generalizing g with
  | nil => rfl
  | cons d dependents ih => exact ih.trans (status?_update fun _ => rfl)

theorem status?_part (hg : g.Keyed) (h : g.split p = .ok (ids, g')) (hk : id ∈ p.partIds) :
    g.status? id = none ∧ g'.status? id = some .pending := by
  obtain ⟨whole, live, names, _⟩ := split_eq_ok h
  obtain ⟨u, _, _, part⟩ := unit?_split_part hg h live hk
  exact ⟨status?_eq_none_iff.2 (isTaken_part names hk), status?_of_live part⟩

theorem status?_split (h : g.split p = .ok (ids, g')) (hk : id ∉ p.partIds) :
    g'.status? id = g.status? id := by
  have whole_old {v : WorkUnit} (live : g.unit? p.whole = some v) : p.whole ∉ p.partIds :=
    not_mem_partIds_of_live h live
  obtain ⟨whole, live, _, _, _, _, rfl⟩ := split_eq_ok h
  rw [status?_rewire]
  refine status?_retire live ?_ fun hne => ?_
  · exact (unit?_withParts (whole_old live)).trans (if_pos rfl)
  · exact (unit?_withParts hk).trans (if_neg hne)

end BuildAdmission.Graph
