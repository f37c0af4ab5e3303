import BuildAdmission.Graph.Split
import BuildAdmission.Proofs.Graph.Units

namespace BuildAdmission.Graph

variable {g result : Graph} {p : SplitPlan} {ids : List UnitId} {whole : WorkUnit} {k : UnitId}

/-- A dependent of the whole, with the parts that it depends on instead. -/
def rewired (p : SplitPlan) (id : UnitId) (u : WorkUnit) : WorkUnit :=
  { u with
    dependencies := (u.dependencies.erase p.whole).union ((p.remap.find? id).getD p.partIds) }

theorem mem_partIds : k ∈ p.partIds ↔ ∃ u ∈ p.parts, u.id = k := by
  rw [SplitPlan.partIds, IdSet.mem_ofList, List.mem_map]

/-- The checks that an accepted plan has passed, and what it leads to. -/
theorem split_eq_ok (h : g.split p = .ok (ids, result)) :
    ∃ whole, g.unit? p.whole = some whole ∧ g.splitNameFault? p = none ∧
      (g.withParts p whole).unknownPartDependency? p = none ∧ result.newTangle? p = none ∧
      ids = p.partIds.toList ∧
      result = (g.withParts p whole).rewire p (g.dependentsOf p.whole) := by
  obtain ⟨whole, hwhole, h⟩ := Except.bind_eq_ok_iff.1 h
  cases hname : g.splitNameFault? p with
  | some fault => simp [hname] at h
  | none =>
      simp only [hname] at h
      cases hunknown : (g.withParts p whole).unknownPartDependency? p with
      | some fault => simp [hunknown] at h
      | none =>
          simp only [hunknown] at h
          cases htangle : ((g.withParts p whole).rewire p (g.dependentsOf p.whole)).newTangle? p with
          | some fault => simp [htangle] at h
          | none =>
              simp only [htangle] at h
              cases h
              exact ⟨whole, get_eq_ok_iff.1 hwhole, rfl, hunknown, htangle, rfl, rfl⟩

theorem split_of_faultless (live : g.unit? p.whole = some whole)
    (names : g.splitNameFault? p = none)
    (unknown : (g.withParts p whole).unknownPartDependency? p = none)
    (tangle : ((g.withParts p whole).rewire p (g.dependentsOf p.whole)).newTangle? p = none) :
    g.split p =
      .ok (p.partIds.toList, (g.withParts p whole).rewire p (g.dependentsOf p.whole)) := by
  simp [split, get_eq_ok_iff.2 live, names, unknown, tangle]

theorem splitNameFault?_eq_none_iff : g.splitNameFault? p = none ↔
    p.parts ≠ [] ∧ p.partIds.toList.length = p.parts.length ∧
      (∀ k ∈ p.partIds, g.isTaken k = false) ∧
      ∀ k targets, p.remap.find? k = some targets →
        k ∈ g.dependentsOf p.whole ∧ ∀ t ∈ targets, t ∈ p.partIds := by
  have free : p.partIds.toList.find? g.isTaken = none ↔ ∀ k ∈ p.partIds, g.isTaken k = false := by
    simp only [List.find?_eq_none, Bool.not_eq_true, IdSet.mem_toList]
  rw [← free, splitNameFault?]
  by_cases hparts : p.parts = []
  · simp [hparts]
  · by_cases hlen : p.partIds.toList.length = p.parts.length
    · cases p.partIds.toList.find? g.isTaken with
      | some id => simp [hparts, hlen]
      | none =>
          simp only [List.isEmpty_iff, hparts, hlen, if_false, ne_eq, not_true_eq_false,
            not_false_eq_true, true_and, List.findSome?_eq_none_iff, Prod.forall,
            ← IdMap.find?_eq_some_iff]
          refine forall_congr' fun k => forall_congr' fun targets => imp_congr_right fun _ => ?_
          split
          · next hdep => simp [hdep, List.find?_eq_none, IdSet.mem_toList]
          · next hdep => simp [hdep]
    · simp [hparts, hlen]

theorem newTangle?_eq_none_iff : g.newTangle? p = none ↔
    (∀ c ∈ g.detectCycles, ∀ x ∈ c, x ∉ p.partIds) ∧
      ∀ v ∈ g.levelViolations, v.source ∉ p.partIds ∧ v.target ∉ p.partIds := by
  have cycles : g.detectCycles.find? (·.any (· ∈ p.partIds)) = none ↔
      ∀ c ∈ g.detectCycles, ∀ x ∈ c, x ∉ p.partIds := by
    simp [List.find?_eq_none]
  have levels : (g.levelViolations.find? fun v =>
        v.source ∈ p.partIds || v.target ∈ p.partIds) = none ↔
      ∀ v ∈ g.levelViolations, v.source ∉ p.partIds ∧ v.target ∉ p.partIds := by
    simp [List.find?_eq_none]
  rw [← cycles, ← levels, newTangle?]
  cases g.detectCycles.find? (·.any (· ∈ p.partIds)) <;> simp

theorem isTaken_part (h : g.splitNameFault? p = none) (hk : k ∈ p.partIds) :
    g.isTaken k = false :=
  (splitNameFault?_eq_none_iff.1 h).2.2.1 k hk

theorem remap_subset (h : g.splitNameFault? p = none) {targets : IdSet}
    (hk : p.remap.find? k = some targets) :
    k ∈ g.dependentsOf p.whole ∧ ∀ t ∈ targets, t ∈ p.partIds :=
  (splitNameFault?_eq_none_iff.1 h).2.2.2 k targets hk

theorem exists_part (h : g.splitNameFault? p = none) : ∃ n, n ∈ p.partIds := by
  obtain ⟨u, hu⟩ := List.exists_mem_of_ne_nil _ (splitNameFault?_eq_none_iff.1 h).1
  exact ⟨u.id, mem_partIds.2 ⟨u, hu, rfl⟩⟩

theorem targets_subset (h : g.split p = .ok (ids, result)) {d : UnitId}
    (hd : d ∈ (p.remap.find? k).getD p.partIds) : d ∈ p.partIds := by
  obtain ⟨_, _, names, _⟩ := split_eq_ok h
  cases hremap : p.remap.find? k with
  | none => rwa [hremap] at hd
  | some targets =>
      rw [hremap] at hd
      exact (remap_subset names hremap).2 d hd

/-! ### The units of the new graph -/

theorem unit?_insertParts (parts : List WorkUnit) (m : IdMap WorkUnit) :
    (∀ u ∈ parts, u.id ≠ k) →
      (parts.foldl (fun m u => m.insert u.id (partOf whole u)) m).find? k = m.find? k := by
  induction parts generalizing m with
  | nil => intro _; rfl
  | cons u parts ih =>
      intro hk
      rw [List.foldl_cons, ih _ fun v hv => hk v (List.mem_cons_of_mem _ hv), IdMap.find?_insert,
        if_neg (hk u List.mem_cons_self).symm]

theorem unit?_insertParts_of_mem (parts : List WorkUnit) (m : IdMap WorkUnit)
    (hk : ∃ u ∈ parts, u.id = k) :
    ∃ u ∈ parts, u.id = k ∧
      (parts.foldl (fun m u => m.insert u.id (partOf whole u)) m).find? k =
        some (partOf whole u) := by
  induction parts generalizing m with
  | nil => simp at hk
  | cons u parts ih =>
      by_cases hlater : ∃ v ∈ parts, v.id = k
      · obtain ⟨v, hv, hid, hfind⟩ := ih (m.insert u.id (partOf whole u)) hlater
        exact ⟨v, List.mem_cons_of_mem _ hv, hid, hfind⟩
      · have hu : u.id = k := by
          obtain ⟨v, hv, hid⟩ := hk
          rcases List.mem_cons.1 hv with rfl | hv
          · exact hid
          · exact absurd ⟨v, hv, hid⟩ hlater
        refine ⟨u, List.mem_cons_self, hu, ?_⟩
        rw [List.foldl_cons, unit?_insertParts parts _ fun v hv hid => hlater ⟨v, hv, hid⟩, ← hu,
          IdMap.find?_insert_self]

theorem unit?_withParts (hk : k ∉ p.partIds) :
    (g.withParts p whole).unit? k = if k = p.whole then none else g.unit? k := by
  rw [unit?, withParts, unit?_insertParts _ _ fun u hu hid => hk (mem_partIds.2 ⟨u, hu, hid⟩),
    IdMap.find?_erase]
  rfl

theorem unit?_withParts_of_mem (g : Graph) (whole : WorkUnit) (hk : k ∈ p.partIds) :
    ∃ u ∈ p.parts, u.id = k ∧ (g.withParts p whole).unit? k = some (partOf whole u) :=
  unit?_insertParts_of_mem p.parts _ (mem_partIds.1 hk)

theorem exists_unit?_withParts_iff : (∃ v, (g.withParts p whole).unit? k = some v) ↔
    k ∈ p.partIds ∨ k ≠ p.whole ∧ ∃ v, g.unit? k = some v := by
  by_cases hk : k ∈ p.partIds
  · obtain ⟨u, _, _, hu⟩ := unit?_withParts_of_mem g whole hk
    exact ⟨fun _ => .inl hk, fun _ => ⟨_, hu⟩⟩
  · rw [unit?_withParts hk]
    by_cases hwhole : k = p.whole
    · subst hwhole
      simp [hk]
    · simp [hk, hwhole]

theorem unit?_withParts_part {u : WorkUnit} (g : Graph) (whole : WorkUnit)
    (distinct : (p.parts.map (·.id)).Nodup) (hu : u ∈ p.parts) :
    (g.withParts p whole).unit? u.id = some (partOf whole u) := by
  obtain ⟨v, hv, hid, live⟩ := unit?_withParts_of_mem g whole (mem_partIds.2 ⟨u, hu, rfl⟩)
  rw [live, List.inj_on_of_nodup_map distinct hv hu hid]

theorem rewired_rewired (p : SplitPlan) (id : UnitId) (u : WorkUnit) :
    rewired p id (rewired p id u) = rewired p id u := by
  have again (s t : IdSet) (x : UnitId) :
      (((s.erase x).union t).erase x).union t = (s.erase x).union t := by
    apply IdSet.ext
    intro y
    simp only [IdSet.mem_union, IdSet.mem_erase]
    tauto
  simp only [rewired, again]

theorem unit?_rewire (g : Graph) (p : SplitPlan) (dependents : List UnitId) (k : UnitId) :
    (g.rewire p dependents).unit? k =
      if k ∈ dependents then (g.unit? k).map (rewired p k) else g.unit? k := by
  induction dependents generalizing g with
  | nil => rfl
  | cons d dependents ih =>
      have hstep : g.rewire p (d :: dependents) =
          (g.update d (rewired p d)).rewire p dependents := rfl
      rw [hstep, ih, unit?_update]
      by_cases hd : k = d
      · subst hd
        have htwice : rewired p k ∘ rewired p k = rewired p k := funext (rewired_rewired p k)
        by_cases hk : k ∈ dependents <;> simp [hk, htwice]
      · simp [hd]

theorem not_mem_partIds_of_live (h : g.split p = .ok (ids, result)) {v : WorkUnit}
    (live : g.unit? k = some v) : k ∉ p.partIds := by
  obtain ⟨whole, _, names, _⟩ := split_eq_ok h
  intro hk
  have absent := (isTaken_eq_false_iff.1 (isTaken_part names hk)).1
  rw [live] at absent
  cases absent

/-- A unit that is not a part was there before and has the parts at most in place of the whole. -/
theorem unit?_split (h : g.split p = .ok (ids, result)) (hk : k ∉ p.partIds) :
    result.unit? k =
      if k = p.whole then none
      else if k ∈ g.dependentsOf p.whole then (g.unit? k).map (rewired p k) else g.unit? k := by
  obtain ⟨whole, _, _, _, _, _, rfl⟩ := split_eq_ok h
  rw [unit?_rewire, unit?_withParts hk]
  split <;> split <;> simp_all

@[simp] theorem archived_rewire (g : Graph) (p : SplitPlan) (dependents : List UnitId) :
    (g.rewire p dependents).archived = g.archived := by
  induction dependents generalizing g with
  | nil => rfl
  | cons d dependents ih => exact ih (g.update d (rewired p d))

theorem archived_split (h : g.split p = .ok (ids, result)) (live : g.unit? p.whole = some whole) :
    result.archived = g.archived.insert p.whole { whole with archived := true } := by
  obtain ⟨w, hw, _, _, _, _, rfl⟩ := split_eq_ok h
  obtain rfl : w = whole := Option.some.inj (hw.symm.trans live)
  rw [archived_rewire]
  rfl

theorem Keyed.withParts (hg : g.Keyed) (hwhole : g.unit? p.whole = some whole) :
    (g.withParts p whole).Keyed := by
  constructor
  · intro k u hu
    by_cases hk : k ∈ p.partIds
    · obtain ⟨v, _, hid, hv⟩ := unit?_withParts_of_mem g whole hk
      cases hv.symm.trans hu
      exact hid
    · rw [unit?_withParts hk] at hu
      split at hu
      · cases hu
      · exact hg.live k u hu
  · exact IdMap.forall_insert hg.archived (hg.live p.whole whole hwhole)

theorem Keyed.rewire (hg : g.Keyed) (dependents : List UnitId) : (g.rewire p dependents).Keyed := by
  induction dependents generalizing g with
  | nil => exact hg
  | cons d dependents ih => exact ih (hg.update fun _ => rfl)

theorem Keyed.split (hg : g.Keyed) (h : g.split p = .ok (ids, result)) : result.Keyed := by
  obtain ⟨whole, hwhole, _, _, _, _, rfl⟩ := split_eq_ok h
  exact (hg.withParts hwhole).rewire _

end BuildAdmission.Graph
