import BuildAdmission.Proofs.Graph.SplitCycles

namespace BuildAdmission.Graph

variable {g result : Graph} {p : SplitPlan} {ids : List UnitId} {x : UnitId} {u : WorkUnit}
  {v : LevelViolation}

/-- No unit depends on one of a higher level. -/
def Graded (g : Graph) : Prop :=
  ∀ x u y v, g.unit? x = some u → y ∈ u.dependencies → g.unit? y = some v → ¬ u.level < v.level

theorem mem_violationsOf : v ∈ g.violationsOf u ↔
    v.target ∈ u.dependencies ∧ ∃ t, g.unit? v.target = some t ∧ u.level < t.level ∧
      v = ⟨u.id, u.level, v.target, t.level⟩ := by
  rw [violationsOf, List.mem_filterMap]
  constructor
  · rintro ⟨y, hy, hv⟩
    obtain ⟨t, live, hv⟩ := Option.bind_eq_some_iff.1 hv
    split at hv
    · next hlt =>
      cases hv
      exact ⟨hy, t, live, hlt, rfl⟩
    · cases hv
  · rintro ⟨hy, t, live, hlt, hv⟩
    refine ⟨v.target, hy, Option.bind_eq_some_iff.2 ⟨t, live, ?_⟩⟩
    rw [if_pos hlt, ← hv]

theorem mem_levelViolations (hg : g.Keyed) : v ∈ g.levelViolations ↔
    ∃ u t, g.unit? v.source = some u ∧ v.target ∈ u.dependencies ∧ g.unit? v.target = some t ∧
      u.level < t.level ∧ v.sourceLevel = u.level ∧ v.targetLevel = t.level := by
  rw [levelViolations, List.mem_flatMap]
  constructor
  · rintro ⟨u, hu, hv⟩
    obtain ⟨x, live⟩ := mem_live_values.1 hu
    obtain ⟨hdep, t, target, hlt, hv⟩ := mem_violationsOf.1 hv
    rw [hv]
    exact ⟨u, t, (hg.live x u live).symm ▸ live, hdep, target, hlt, rfl, rfl⟩
  · rintro ⟨u, t, live, hdep, target, hlt, hsource, htarget⟩
    refine ⟨u, mem_live_values.2 ⟨_, live⟩, mem_violationsOf.2 ⟨hdep, t, target, hlt, ?_⟩⟩
    rw [hg.live _ u live, ← hsource, ← htarget]

theorem levelViolations_eq_nil_iff (hg : g.Keyed) : g.levelViolations = [] ↔ g.Graded := by
  rw [List.eq_nil_iff_forall_not_mem]
  constructor
  · intro none x u y v live hdep target hlt
    exact none ⟨x, u.level, y, v.level⟩
      ((mem_levelViolations hg).2 ⟨u, v, live, hdep, target, hlt, rfl, rfl⟩)
  · intro graded v hv
    obtain ⟨u, t, live, hdep, target, hlt, _⟩ := (mem_levelViolations hg).1 hv
    exact graded _ u _ t live hdep target hlt

/-- Where every dependency on a higher level was there before, so was every violation. -/
theorem levelViolations_of_old (hg : g.Keyed) (hr : result.Keyed)
    (old : ∀ x u y t, result.unit? x = some u → y ∈ u.dependencies → result.unit? y = some t →
      u.level < t.level → ∃ w s, g.unit? x = some w ∧ y ∈ w.dependencies ∧ g.unit? y = some s ∧
        w.level = u.level ∧ s.level = t.level)
    (hv : v ∈ result.levelViolations) : v ∈ g.levelViolations := by
  obtain ⟨u, t, live, hdep, target, hlt, hu, ht⟩ := (mem_levelViolations hr).1 hv
  obtain ⟨w, s, live', hdep', target', wlevel, slevel⟩ := old _ u _ t live hdep target hlt
  refine (mem_levelViolations hg).2 ⟨w, s, live', hdep', target', ?_, ?_, ?_⟩
  · rwa [wlevel, slevel]
  · rw [hu, wlevel]
  · rw [ht, slevel]

/-! ### Splits -/

theorem level_of_split (h : g.split p = .ok (ids, result)) (hx : x ∉ p.partIds)
    (live : result.unit? x = some u) : ∃ w, g.unit? x = some w ∧ w.level = u.level := by
  rw [unit?_split h hx] at live
  split at live
  · cases live
  · split at live
    · obtain ⟨w, hw, rfl⟩ := Option.map_eq_some_iff.1 live
      exact ⟨w, hw, rfl⟩
    · exact ⟨u, live, rfl⟩

/-- A split is refused for a violation at a part, so it leaves none that was not there before. -/
theorem levelViolations_split (hg : g.Keyed) (h : g.split p = .ok (ids, result))
    (hv : v ∈ result.levelViolations) : v ∈ g.levelViolations := by
  refine levelViolations_of_old hg (hg.split h) (fun x u y t live hdep target hlt => ?_) hv
  obtain ⟨_, _, _, _, tangle, _⟩ := split_eq_ok h
  obtain ⟨hsource, htarget⟩ := (newTangle?_eq_none_iff.1 tangle).2 ⟨x, u.level, y, t.level⟩
    ((mem_levelViolations (hg.split h)).2 ⟨u, t, live, hdep, target, hlt, rfl, rfl⟩)
  obtain ⟨hold, _⟩ := dependsOn_of_split h hsource htarget (dependsOn_iff.2 ⟨u, live, hdep⟩)
  obtain ⟨w, live', wlevel⟩ := level_of_split h hsource live
  obtain ⟨t', target', tlevel⟩ := level_of_split h htarget target
  obtain ⟨w', hw', hdep'⟩ := dependsOn_iff.1 hold
  cases live'.symm.trans hw'
  exact ⟨w, t', live', hdep', target', wlevel, tlevel⟩

end BuildAdmission.Graph
