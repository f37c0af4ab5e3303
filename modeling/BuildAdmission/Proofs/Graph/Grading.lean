import BuildAdmission.Proofs.Graph.History
import BuildAdmission.Proofs.Graph.Levels

namespace BuildAdmission

/-- By the unit that depends, and then by the one that it depends on. -/
def LevelViolation.Earlier (v w : LevelViolation) : Prop :=
  v.source < w.source ∨ v.source = w.source ∧ v.target < w.target

namespace Graph

variable {g g' : Graph} {u : WorkUnit} {id source target : UnitId} {v : LevelViolation} {c : Change}

/-! ### Every violation is reported once -/

theorem ascending_violationsOf (g : Graph) (u : WorkUnit) :
    (g.violationsOf u).Pairwise LevelViolation.Earlier := by
  refine u.dependencies.ascending.filterMap _ ?_
  intro d d' less v hv w hw
  obtain ⟨t, _, hv⟩ := Option.bind_eq_some_iff.1 hv
  obtain ⟨t', _, hw⟩ := Option.bind_eq_some_iff.1 hw
  split at hv
  · split at hw
    · cases hv
      cases hw
      exact .inr ⟨rfl, less⟩
    · cases hw
  · cases hv

theorem Keyed.ascending_values (hg : g.Keyed) : g.live.values.Pairwise (·.id < ·.id) := by
  rw [← List.pairwise_map (f := WorkUnit.id) (R := (· < ·)), IdMap.map_values_eq_keys hg.live]
  exact List.pairwise_map.2 g.live.ascending

theorem ascending_levelViolations (hg : g.Keyed) :
    g.levelViolations.Pairwise LevelViolation.Earlier := by
  refine List.pairwise_flatMap.2 ⟨fun u _ => ascending_violationsOf g u, ?_⟩
  refine hg.ascending_values.imp fun {u u'} less v hv w hw => .inl ?_
  obtain ⟨_, _, _, _, hv⟩ := mem_violationsOf.1 hv
  obtain ⟨_, _, _, _, hw⟩ := mem_violationsOf.1 hw
  rw [hv, hw]
  exact less

/-! ### No change brings a violation -/

/-- No unit depends on one that is new, and the new one on none of a higher level. -/
theorem levelViolations_addUnit (hg : g.Keyed) (closed : g.Closed) (h : g.addUnit u = .ok g')
    (hv : v ∈ g'.levelViolations) : v ∈ g.levelViolations := by
  refine levelViolations_of_old hg (hg.addUnit h) (fun x w y t live hdep target hlt => ?_) hv
  obtain ⟨free, edges, rfl⟩ := addUnit_eq_ok h
  have absent := (isTaken_eq_false_iff.1 free).1
  have before (known : ∃ s, g.unit? y = some s) : g.unit? y = some t := by
    rw [unit?, IdMap.find?_insert] at target
    split at target
    · next same =>
      obtain ⟨s, hs⟩ := known
      cases absent.symm.trans (same ▸ hs)
    · exact target
  rw [unit?, IdMap.find?_insert] at live
  split at live
  · cases live
    obtain ⟨s, hs, level⟩ := checkEdge_eq_ok (edges y hdep)
    cases hs.symm.trans (before ⟨s, hs⟩)
    exact absurd hlt level
  · exact ⟨w, t, live, hdep, before (closed_iff.1 closed x w live y hdep), rfl, rfl⟩

theorem levelViolations_addEdge (hg : g.Keyed) (h : g.addEdge source target = .ok g')
    (hv : v ∈ g'.levelViolations) : v ∈ g.levelViolations := by
  refine levelViolations_of_old hg (hg.addEdge h) (fun x w y t live hdep there hlt => ?_) hv
  obtain ⟨u, hu, edge, rfl⟩ := addEdge_eq_ok h
  obtain ⟨s, hs, slevel⟩ : ∃ s, g.unit? y = some s ∧ s.level = t.level := by
    rw [unit?_update] at there
    split at there
    · obtain ⟨s, hs, rfl⟩ := Option.map_eq_some_iff.1 there
      exact ⟨s, hs, rfl⟩
    · exact ⟨t, there, rfl⟩
  rw [unit?_update] at live
  split at live
  · next same =>
    subst same
    obtain ⟨w, hw, rfl⟩ := Option.map_eq_some_iff.1 live
    cases hu.symm.trans hw
    obtain rfl | hdep := IdSet.mem_insert.1 hdep
    · obtain ⟨s', hs', level⟩ := checkEdge_eq_ok edge
      cases hs.symm.trans hs'
      exact absurd (slevel ▸ hlt) level
    · exact ⟨u, s, hw, hdep, hs, rfl, slevel⟩
  · exact ⟨w, s, live, hdep, hs, rfl, slevel⟩

theorem levelViolations_archive (hg : g.Keyed) (h : g.archive id = .ok (u, g'))
    (hv : v ∈ g'.levelViolations) : v ∈ g.levelViolations := by
  refine levelViolations_of_old hg (hg.archive h) (fun x w y t live hdep target hlt => ?_) hv
  obtain ⟨_, _, _, _, rfl⟩ := archive_eq_ok h
  have before {k : UnitId} {r : WorkUnit} (stays : (g.live.erase id).find? k = some r) :
      g.unit? k = some r := by
    rw [IdMap.find?_erase] at stays
    split at stays
    · cases stays
    · exact stays
  exact ⟨w, t, before live, hdep, before target, rfl, rfl⟩

theorem Built.levelViolations_change (hg : g.Built) (h : g.change c = .ok g')
    (hv : v ∈ g'.levelViolations) : v ∈ g.levelViolations := by
  cases c with
  | addUnit u => exact levelViolations_addUnit hg.keyed hg.closed h hv
  | addEdge source target => exact levelViolations_addEdge hg.keyed h hv
  | archive id =>
      obtain ⟨⟨u, _⟩, archived, rfl⟩ := Except.map_eq_ok_iff.1 h
      exact levelViolations_archive hg.keyed archived hv
  | split plan =>
      obtain ⟨⟨ids, _⟩, accepted, rfl⟩ := Except.map_eq_ok_iff.1 h
      exact levelViolations_split hg.keyed accepted hv

theorem Built.levelViolations_attempt (hg : g.Built) (hv : v ∈ (g.attempt c).levelViolations) :
    v ∈ g.levelViolations := by
  rcases attempt_cases g c with same | changed
  · exact same ▸ hv
  · exact hg.levelViolations_change changed hv

theorem Built.levelViolations_after (hg : g.Built) (cs : List Change)
    (hv : v ∈ (g.after cs).levelViolations) : v ∈ g.levelViolations := by
  induction cs generalizing g with
  | nil => exact hv
  | cons c cs ih => exact hg.levelViolations_attempt (ih (hg.after [c]).1 hv)

/-- The violations of a graph are its dependencies on units of a higher level, each of them
reported once and in order. Whatever changes are asked of the graph, granted or refused, none is
added, so that a graph that begins empty never has one. -/
theorem Built.levels_kept (hg : g.Built) :
    (g.levelViolations.Pairwise LevelViolation.Earlier ∧
      ∀ v, v ∈ g.levelViolations ↔ ∃ u t, g.unit? v.source = some u ∧ v.target ∈ u.dependencies ∧
        g.unit? v.target = some t ∧ u.level < t.level ∧
        v.sourceLevel = u.level ∧ v.targetLevel = t.level) ∧
    (∀ c, ∀ v ∈ (g.attempt c).levelViolations, v ∈ g.levelViolations) ∧
    (∀ cs, ∀ v ∈ (g.after cs).levelViolations, v ∈ g.levelViolations) ∧
    ∀ cs, (empty.after cs).levelViolations = [] := by
  refine ⟨⟨ascending_levelViolations hg.keyed, fun v => mem_levelViolations hg.keyed⟩,
    fun c v => hg.levelViolations_attempt, fun cs v => hg.levelViolations_after cs, fun cs => ?_⟩
  refine List.eq_nil_iff_forall_not_mem.2 fun v hv => ?_
  cases Begun.empty.built.levelViolations_after cs hv

/-- `sys` depends on a unit of a higher level, as it may in records. -/
def slanted : List WorkUnit :=
  [⟨"app", .feature, .pending, 0, 1, .ofList ["lib"], 0, false⟩,
    ⟨"lib", .core, .pending, 0, 1, ∅, 0, false⟩,
    ⟨"sys", .base, .pending, 0, 1, .ofList ["app", "lib"], 0, false⟩]

/-- The first change is refused for the level of `app`. The split is granted, and so is a unit that
depends on its part. -/
def slantedChanges : List Change :=
  [.addEdge "lib" "app", .split ⟨"lib", [⟨"new", .base, .pending, 0, 1, ∅, 0, false⟩], ∅⟩,
    .addUnit ⟨"old", .core, .pending, 0, 1, .ofList ["new"], 0, false⟩]

theorem levels_kept_slanted : ∃ start, ofRecords slanted = .ok start ∧ start.Built ∧
    start.levelViolations =
      [⟨"sys", .base, "app", .feature⟩, ⟨"sys", .base, "lib", .core⟩] ∧
    (start.after slantedChanges).live.keys = ["app", "new", "old", "sys"] ∧
    ∀ v ∈ (start.after slantedChanges).levelViolations, v ∈ start.levelViolations := by
  obtain ⟨start, read⟩ : ∃ start, ofRecords slanted = .ok start := ⟨_, rfl⟩
  obtain ⟨_, _, since, _⟩ := Built.levels_kept (.read read)
  refine ⟨start, read, .read read, ?_, ?_, since slantedChanges⟩
  · cases read
    decide +kernel
  · cases read
    decide +kernel

end Graph

end BuildAdmission
