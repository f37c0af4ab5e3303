import BuildAdmission.Proofs.Graph.Reach
import BuildAdmission.Proofs.Graph.Split

namespace BuildAdmission.Graph

variable {g g' : Graph} {id k source target : UnitId} {u whole : WorkUnit} {p : SplitPlan}
  {ids : List UnitId}

/-- Every dependency is on a live unit. -/
def Closed (g : Graph) : Prop := ∀ x y, g.DependsOn x y → ∃ v, g.unit? y = some v

/-- No name is both live and archived. -/
def Apart (g : Graph) : Prop := ∀ id u, g.unit? id = some u → g.archived.find? id = none

/-- The live units are marked as such, and the archived ones as archived. -/
structure Marked (g : Graph) : Prop where
  live : ∀ id u, g.unit? id = some u → u.archived = false
  archived : ∀ id u, g.archived.find? id = some u → u.archived = true

/-- A change to a unit that leaves alone what the shape of the graph is made of. -/
structure Revision (f : WorkUnit → WorkUnit) : Prop where
  id : ∀ u, (f u).id = u.id
  level : ∀ u, (f u).level = u.level
  dependencies : ∀ u, (f u).dependencies = u.dependencies
  archived : ∀ u, (f u).archived = u.archived

theorem revision_status (status : Status) : Revision fun u => { u with status } :=
  ⟨fun _ => rfl, fun _ => rfl, fun _ => rfl, fun _ => rfl⟩

/-- The graphs that come of reading records and changing the graph from then on. -/
inductive Built : Graph → Prop
  | read {us : List WorkUnit} {g : Graph} : ofRecords us = .ok g → Built g
  | addUnit {u : WorkUnit} {g g' : Graph} : Built g → g.addUnit u = .ok g' → Built g'
  | addEdge {source target : UnitId} {g g' : Graph} :
      Built g → g.addEdge source target = .ok g' → Built g'
  | archive {id : UnitId} {u : WorkUnit} {g g' : Graph} :
      Built g → g.archive id = .ok (u, g') → Built g'
  | split {p : SplitPlan} {ids : List UnitId} {g g' : Graph} :
      Built g → g.split p = .ok (ids, g') → Built g'
  | revise {f : WorkUnit → WorkUnit} {g : Graph} (id : UnitId) :
      Built g → Revision f → Built (g.update id f)

theorem closed_iff : g.Closed ↔
    ∀ x u, g.unit? x = some u → ∀ d ∈ u.dependencies, ∃ v, g.unit? d = some v := by
  constructor
  · intro h x u live d hd
    exact h x d (dependsOn_iff.2 ⟨u, live, hd⟩)
  · intro h x y hxy
    obtain ⟨u, live, hy⟩ := dependsOn_iff.1 hxy
    exact h x u live y hy

theorem checkEdge_eq_ok (h : g.checkEdge u target = .ok ()) :
    ∃ v, g.unit? target = some v ∧ ¬ u.level < v.level := by
  obtain ⟨v, hv, h⟩ := Except.bind_eq_ok_iff.1 h
  split at h
  · cases h
  · next level => exact ⟨v, get_eq_ok_iff.1 hv, level⟩

theorem mem_dependentsOf (hg : g.Keyed) : k ∈ g.dependentsOf id ↔ g.DependsOn k id := by
  rw [dependentsOf, List.mem_map, dependsOn_iff]
  constructor
  · rintro ⟨u, hu, rfl⟩
    obtain ⟨live, hdep⟩ := List.mem_filter.1 hu
    obtain ⟨x, hx⟩ := mem_live_values.1 live
    exact ⟨u, (hg.live x u hx).symm ▸ hx, of_decide_eq_true hdep⟩
  · rintro ⟨u, hu, hdep⟩
    exact ⟨u, List.mem_filter.2 ⟨mem_live_values.2 ⟨k, hu⟩, decide_eq_true hdep⟩, hg.live k u hu⟩

theorem Keyed.nodup_dependentsOf (hg : g.Keyed) (id : UnitId) : (g.dependentsOf id).Nodup := by
  rw [List.nodup_iff_pairwise_ne, dependentsOf, List.pairwise_map]
  exact hg.pairwise_values.filter _

theorem unit?_insert_live (m : IdMap WorkUnit) (live : ∃ v, g.unit? k = some v) :
    ∃ v, (⟨g.live.insert id u, m⟩ : Graph).unit? k = some v := by
  obtain ⟨v, hv⟩ := live
  rw [unit?, IdMap.find?_insert]
  split
  · exact ⟨u, rfl⟩
  · exact ⟨v, hv⟩

/-! ### Dependencies stay among the live units -/

theorem dangling?_eq_none_iff : g.dangling? = none ↔ g.Closed := by
  rw [closed_iff, dangling?, List.findSome?_eq_none_iff]
  constructor
  · intro h x u live d hd
    have hnone := h u (mem_live_values.2 ⟨x, live⟩)
    have hlive : g.live.contains d = true := by simpa using List.find?_eq_none.1 hnone d hd
    exact contains_iff.1 hlive
  · intro h u hu
    obtain ⟨x, live⟩ := mem_live_values.1 hu
    rw [List.find?_eq_none]
    intro d hd
    simpa using contains_iff.2 (h x u live d hd)

theorem closed_ofRecords {us : List WorkUnit} (h : ofRecords us = .ok g) : g.Closed :=
  dangling?_eq_none_iff.1 (ofRecords_eq_ok h).2

theorem Closed.addUnit (hg : g.Closed) (h : g.addUnit u = .ok g') : g'.Closed := by
  obtain ⟨_, hedges, rfl⟩ := addUnit_eq_ok h
  rw [closed_iff] at hg ⊢
  refine IdMap.forall_insert ?_ ?_
  · intro x v live d hd
    exact unit?_insert_live _ (hg x v live d hd)
  · intro d hd
    obtain ⟨v, live, _⟩ := checkEdge_eq_ok (hedges d hd)
    exact unit?_insert_live _ ⟨v, live⟩

theorem Closed.update (hg : g.Closed) {f : WorkUnit → WorkUnit}
    (hf : ∀ u, g.unit? id = some u →
      ∀ d ∈ (f u).dependencies, d ∈ u.dependencies ∨ ∃ v, g.unit? d = some v) :
    (g.update id f).Closed := by
  have kept {d : UnitId} (live : ∃ v, g.unit? d = some v) :
      ∃ v, (g.update id f).unit? d = some v := by
    obtain ⟨v, hv⟩ := live
    rw [unit?_update, hv]
    split
    · exact ⟨f v, rfl⟩
    · exact ⟨v, rfl⟩
  rw [closed_iff] at hg ⊢
  intro x w hw d hd
  rw [unit?_update] at hw
  split at hw
  · next hx =>
    obtain ⟨u, live, rfl⟩ := Option.map_eq_some_iff.1 hw
    subst x
    rcases hf u live d hd with hd | hlive
    · exact kept (hg id u live d hd)
    · exact kept hlive
  · exact kept (hg x w hw d hd)

theorem Closed.addEdge (hg : g.Closed) (h : g.addEdge source target = .ok g') : g'.Closed := by
  obtain ⟨u, _, hedge, rfl⟩ := addEdge_eq_ok h
  apply hg.update
  intro u _ d hd
  rcases IdSet.mem_insert.1 hd with rfl | hd
  · exact .inr ((checkEdge_eq_ok hedge).imp fun _ => And.left)
  · exact .inl hd

theorem Closed.archive (hk : g.Keyed) (hg : g.Closed) (h : g.archive id = .ok (u, g')) :
    g'.Closed := by
  obtain ⟨v, _, hdependents, _, rfl⟩ := archive_eq_ok h
  rw [closed_iff] at hg ⊢
  intro x w hw d hd
  have live : g.unit? x = some w := by
    rw [unit?, IdMap.find?_erase] at hw
    split at hw
    · cases hw
    · exact hw
  -- No unit depends on the one that goes, so the dependency is another.
  have hne : d ≠ id := by
    rintro rfl
    have : x ∈ g.dependentsOf d := (mem_dependentsOf hk).2 (dependsOn_iff.2 ⟨w, live, hd⟩)
    rw [hdependents] at this
    cases this
  rw [unit?, IdMap.find?_erase, if_neg hne]
  exact hg x w live d hd

theorem unit?_rewire_isSome (g : Graph) (p : SplitPlan) (dependents : List UnitId)
    (live : ∃ v, g.unit? k = some v) : ∃ v, (g.rewire p dependents).unit? k = some v := by
  obtain ⟨v, hv⟩ := live
  rw [unit?_rewire, hv]
  split
  · exact ⟨rewired p k v, rfl⟩
  · exact ⟨v, rfl⟩

/-- A part is new, so it is no dependent of the whole. -/
theorem not_mem_dependentsOf_part (hg : g.Keyed) (names : g.splitNameFault? p = none)
    (hk : k ∈ p.partIds) : k ∉ g.dependentsOf p.whole := by
  intro hdep
  obtain ⟨v, live, _⟩ := dependsOn_iff.1 ((mem_dependentsOf hg).1 hdep)
  cases (isTaken_eq_false_iff.1 (isTaken_part names hk)).1.symm.trans live

theorem unknownPartDependency?_eq_none_iff : g.unknownPartDependency? p = none ↔
    ∀ k ∈ p.partIds, ∀ d, g.DependsOn k d → ∃ v, g.unit? d = some v := by
  rw [unknownPartDependency?, List.findSome?_eq_none_iff]
  refine forall₂_congr fun k _ => ?_
  rw [Option.map_eq_none_iff, List.find?_eq_none]
  refine forall₂_congr fun d _ => ?_
  rw [Bool.not_eq_true', Bool.not_eq_false, contains_iff]

theorem Closed.split (hk : g.Keyed) (hg : g.Closed) (h : g.split p = .ok (ids, g')) :
    g'.Closed := by
  have targets {x d : UnitId} (hd : d ∈ (p.remap.find? x).getD p.partIds) := targets_subset h hd
  obtain ⟨whole, hwhole, names, unknown, _, _, rfl⟩ := split_eq_ok h
  rw [closed_iff] at hg ⊢
  intro x w hw d hd
  apply unit?_rewire_isSome
  rw [unit?_rewire] at hw
  by_cases hx : x ∈ p.partIds
  · rw [if_neg (not_mem_dependentsOf_part hk names hx)] at hw
    exact unknownPartDependency?_eq_none_iff.1 unknown x hx d (dependsOn_iff.2 ⟨w, hw, hd⟩)
  · rw [unit?_withParts hx] at hw
    rw [exists_unit?_withParts_iff]
    split at hw
    · obtain ⟨v, hv, rfl⟩ := Option.map_eq_some_iff.1 hw
      split at hv
      · cases hv
      · rcases IdSet.mem_union.1 hd with hd | hd
        · obtain ⟨hd, hne⟩ := IdSet.mem_erase.1 hd
          exact .inr ⟨hne, hg x v hv d hd⟩
        · exact .inl (targets hd)
    · next hdep =>
      split at hw
      · cases hw
      · refine .inr ⟨?_, hg x w hw d hd⟩
        rintro rfl
        exact hdep ((mem_dependentsOf hk).2 (dependsOn_iff.2 ⟨w, hw, hd⟩))

/-! ### The live and the archived names stay apart -/

theorem Apart.insertRecord (hg : g.Apart) (h : g.insertRecord u = .ok g') : g'.Apart := by
  obtain ⟨taken, ⟨_, rfl⟩ | ⟨_, rfl⟩⟩ := insertRecord_eq_ok h
  · obtain ⟨absent, _⟩ := isTaken_eq_false_iff.1 taken
    intro k v live
    have hne : k ≠ u.id := by
      rintro rfl
      cases absent.symm.trans live
    rw [IdMap.find?_insert, if_neg hne]
    exact hg k v live
  · exact IdMap.forall_insert hg (isTaken_eq_false_iff.1 taken).2

theorem apart_ofRecords {us : List WorkUnit} (h : ofRecords us = .ok g) : g.Apart :=
  ofRecords_induction h (fun _ _ _ => rfl) fun _ _ _ _ => Apart.insertRecord

theorem Apart.addUnit (hg : g.Apart) (h : g.addUnit u = .ok g') : g'.Apart := by
  obtain ⟨taken, _, rfl⟩ := addUnit_eq_ok h
  exact IdMap.forall_insert hg (isTaken_eq_false_iff.1 taken).2

theorem Apart.update (hg : g.Apart) {f : WorkUnit → WorkUnit} : (g.update id f).Apart :=
  IdMap.forall_modify hg fun _ _ h => h

theorem Apart.retire (hg : g.Apart) (u : WorkUnit) :
    (⟨g.live.erase id, g.archived.insert id u⟩ : Graph).Apart := by
  intro k v live
  rw [unit?, IdMap.find?_erase] at live
  split at live
  · cases live
  · next hne =>
    rw [IdMap.find?_insert, if_neg hne]
    exact hg k v live

theorem Apart.archive (hg : g.Apart) (h : g.archive id = .ok (u, g')) : g'.Apart := by
  obtain ⟨v, _, _, _, rfl⟩ := archive_eq_ok h
  exact hg.retire u

theorem Apart.rewire (hg : g.Apart) (dependents : List UnitId) :
    (g.rewire p dependents).Apart := by
  induction dependents generalizing g with
  | nil => exact hg
  | cons d dependents ih => exact ih hg.update

theorem Apart.split (hg : g.Apart) (h : g.split p = .ok (ids, g')) : g'.Apart := by
  obtain ⟨whole, hwhole, names, _, _, _, rfl⟩ := split_eq_ok h
  apply Apart.rewire
  intro k v live
  by_cases hk : k ∈ p.partIds
  · obtain ⟨absent, unarchived⟩ := isTaken_eq_false_iff.1 (isTaken_part names hk)
    have hne : k ≠ p.whole := by
      rintro rfl
      cases absent.symm.trans hwhole
    rw [withParts, IdMap.find?_insert, if_neg hne]
    exact unarchived
  · rw [unit?_withParts hk] at live
    split at live
    · cases live
    · next hne =>
      rw [withParts, IdMap.find?_insert, if_neg hne]
      exact hg k v live

/-! ### The marks -/

theorem unit?_split_part (hg : g.Keyed) (h : g.split p = .ok (ids, g'))
    (live : g.unit? p.whole = some whole) (hk : k ∈ p.partIds) :
    ∃ u ∈ p.parts, u.id = k ∧ g'.unit? k = some (partOf whole u) := by
  obtain ⟨w, hw, names, _, _, _, rfl⟩ := split_eq_ok h
  obtain rfl : w = whole := Option.some.inj (hw.symm.trans live)
  rw [unit?_rewire, if_neg (not_mem_dependentsOf_part hg names hk)]
  exact unit?_withParts_of_mem g w hk

theorem marked_empty : empty.Marked := by
  constructor
  · intro id u h
    cases h
  · intro id u h
    cases h

theorem Marked.insertRecord (hg : g.Marked) (h : g.insertRecord u = .ok g') : g'.Marked := by
  obtain ⟨_, ⟨mark, rfl⟩ | ⟨mark, rfl⟩⟩ := insertRecord_eq_ok h
  · exact ⟨hg.live, IdMap.forall_insert hg.archived mark⟩
  · exact ⟨IdMap.forall_insert hg.live mark, hg.archived⟩

theorem marked_ofRecords {us : List WorkUnit} (h : ofRecords us = .ok g) : g.Marked :=
  ofRecords_induction h marked_empty fun _ _ _ _ => Marked.insertRecord

theorem Marked.addUnit (hg : g.Marked) (h : g.addUnit u = .ok g') : g'.Marked := by
  obtain ⟨_, _, rfl⟩ := addUnit_eq_ok h
  exact ⟨IdMap.forall_insert hg.live rfl, hg.archived⟩

theorem Marked.update (hg : g.Marked) {f : WorkUnit → WorkUnit}
    (hf : ∀ u, (f u).archived = u.archived) : (g.update id f).Marked := by
  refine ⟨?_, hg.archived⟩
  apply IdMap.forall_modify hg.live
  intro k u hu
  exact (hf u).trans hu

theorem Marked.archive (hg : g.Marked) (h : g.archive id = .ok (u, g')) : g'.Marked := by
  obtain ⟨v, _, _, rfl, rfl⟩ := archive_eq_ok h
  exact ⟨IdMap.forall_erase hg.live, IdMap.forall_insert hg.archived rfl⟩

theorem Marked.split (hk : g.Keyed) (hg : g.Marked) (h : g.split p = .ok (ids, g')) :
    g'.Marked := by
  obtain ⟨whole, hwhole, _⟩ := split_eq_ok h
  constructor
  · intro x v hv
    by_cases hx : x ∈ p.partIds
    · obtain ⟨u, _, _, hu⟩ := unit?_split_part hk h hwhole hx
      cases hu.symm.trans hv
      rfl
    · rw [unit?_split h hx] at hv
      split at hv
      · cases hv
      · split at hv
        · obtain ⟨u, hu, rfl⟩ := Option.map_eq_some_iff.1 hv
          exact hg.live x u hu
        · exact hg.live x v hv
  · rw [archived_split h hwhole]
    exact IdMap.forall_insert hg.archived rfl

/-! ### All built graphs -/

theorem Built.keyed (h : g.Built) : g.Keyed := by
  induction h with
  | read h => exact keyed_ofRecords h
  | addUnit _ h ih => exact ih.addUnit h
  | addEdge _ h ih => exact ih.addEdge h
  | archive _ h ih => exact ih.archive h
  | split _ h ih => exact ih.split h
  | revise id _ hf ih => exact ih.update hf.id

theorem Built.closed (h : g.Built) : g.Closed := by
  induction h with
  | read h => exact closed_ofRecords h
  | addUnit _ h ih => exact ih.addUnit h
  | addEdge _ h ih => exact ih.addEdge h
  | archive hg h ih => exact ih.archive hg.keyed h
  | split hg h ih => exact ih.split hg.keyed h
  | revise id _ hf ih =>
      apply ih.update
      intro u _ d hd
      rw [hf.dependencies] at hd
      exact .inl hd

theorem Built.apart (h : g.Built) : g.Apart := by
  induction h with
  | read h => exact apart_ofRecords h
  | addUnit _ h ih => exact ih.addUnit h
  | addEdge _ h ih =>
      obtain ⟨_, _, _, rfl⟩ := addEdge_eq_ok h
      exact ih.update
  | archive _ h ih => exact ih.archive h
  | split _ h ih => exact ih.split h
  | revise id _ _ ih => exact ih.update

theorem Built.marked (h : g.Built) : g.Marked := by
  induction h with
  | read h => exact marked_ofRecords h
  | addUnit _ h ih => exact ih.addUnit h
  | addEdge _ h ih =>
      obtain ⟨_, _, _, rfl⟩ := addEdge_eq_ok h
      exact ih.update fun _ => rfl
  | archive _ h ih => exact ih.archive h
  | split hg h ih => exact ih.split hg.keyed h
  | revise id _ hf ih => exact ih.update hf.archived

end BuildAdmission.Graph
