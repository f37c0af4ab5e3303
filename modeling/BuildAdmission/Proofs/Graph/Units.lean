import BuildAdmission.Graph.Basic
import BuildAdmission.Proofs.Except
import BuildAdmission.Proofs.IdMap
import BuildAdmission.Proofs.IdSet

namespace BuildAdmission.Graph

variable {g g' : Graph} {id k source target : UnitId} {u : WorkUnit}

/-- Every unit, live or archived, is kept under its own name. -/
structure Keyed (g : Graph) : Prop where
  live : ∀ id u, g.unit? id = some u → u.id = id
  archived : ∀ id u, g.archived.find? id = some u → u.id = id

theorem keyed_empty : empty.Keyed := by
  constructor
  · intro id u h
    cases h
  · intro id u h
    cases h

/-! ### Looking up -/

theorem get_eq_ok_iff : g.get id = .ok u ↔ g.unit? id = some u := by
  unfold get
  cases g.unit? id <;> simp

theorem get_eq_error (h : g.unit? id = none) : g.get id = .error (.unknownUnit id) := by
  simp [get, h]

theorem isTaken_eq_false_iff :
    g.isTaken id = false ↔ g.unit? id = none ∧ g.archived.find? id = none := by
  rw [isTaken, Bool.or_eq_false_iff, IdMap.contains_eq_false_iff, IdMap.contains_eq_false_iff]
  rfl

theorem isTaken_iff :
    g.isTaken id = true ↔ (∃ u, g.unit? id = some u) ∨ ∃ u, g.archived.find? id = some u := by
  rw [isTaken, Bool.or_eq_true, IdMap.contains_iff, IdMap.contains_iff]
  rfl

theorem mem_live_values : u ∈ g.live.values ↔ ∃ id, g.unit? id = some u := IdMap.mem_values_iff

theorem Keyed.pairwise_values (hg : g.Keyed) : g.live.values.Pairwise (·.id ≠ ·.id) :=
  IdMap.pairwise_values hg.live

theorem isComplete_iff :
    g.isComplete id = true ↔ ∃ u, g.unit? id = some u ∧ u.status = .complete := by
  unfold isComplete
  cases g.unit? id <;> simp

theorem unmetOf_eq_nil_iff :
    g.unmetOf u = [] ↔
      ∀ d ∈ u.dependencies, ∃ v, g.unit? d = some v ∧ v.status = .complete := by
  simp only [unmetOf, List.filter_eq_nil_iff, Bool.not_eq_true', Bool.not_eq_false,
    isComplete_iff]
  rfl

/-! ### Changing a unit -/

theorem unit?_update (g : Graph) (id : UnitId) (f : WorkUnit → WorkUnit) (k : UnitId) :
    (g.update id f).unit? k = if k = id then (g.unit? k).map f else g.unit? k :=
  IdMap.find?_modify g.live id f k

theorem unit?_update_self {f : WorkUnit → WorkUnit} (live : g.unit? id = some u) :
    (g.update id f).unit? id = some (f u) := by
  rw [unit?_update, if_pos rfl, live]
  rfl

theorem Keyed.update (h : g.Keyed) {f : WorkUnit → WorkUnit} (hf : ∀ u, (f u).id = u.id) :
    (g.update id f).Keyed := by
  refine ⟨?_, h.archived⟩
  apply IdMap.forall_modify h.live
  intro k u hu
  exact (hf u).trans hu

theorem update_eq_self {f : WorkUnit → WorkUnit} (h : ∀ u, g.unit? id = some u → f u = u) :
    g.update id f = g := by
  rw [update, IdMap.modify_eq_self h]

theorem update_update (g : Graph) (id : UnitId) (f f' : WorkUnit → WorkUnit) :
    (g.update id f).update id f' = g.update id (f' ∘ f) := by
  rw [update, update, update, IdMap.modify_modify]

theorem setStatus_setStatus_self {status status' : Status}
    (h : ∀ u, g.unit? id = some u → u.status = status') :
    (g.setStatus id status).setStatus id status' = g := by
  rw [setStatus, setStatus, update_update]
  apply update_eq_self
  intro u hu
  rw [← h u hu]
  rfl

theorem setStatus_comm (h : k ≠ id) (g : Graph) (status status' : Status) :
    (g.setStatus k status).setStatus id status' = (g.setStatus id status').setStatus k status := by
  simp only [setStatus, update, IdMap.modify_comm g.live h]

theorem unit?_setStatus_of_ne (h : k ≠ id) (g : Graph) (status : Status) :
    (g.setStatus id status).unit? k = g.unit? k := by
  rw [setStatus, unit?_update, if_neg h]

theorem isComplete_setStatus {status : Status} (live : g.unit? id = some u)
    (before : u.status ≠ .complete) (after : status ≠ .complete) (k : UnitId) :
    (g.setStatus id status).isComplete k = g.isComplete k := by
  by_cases hk : k = id
  · subst hk
    rw [isComplete, isComplete, setStatus, unit?_update_self live, live]
    simp [before, after]
  · rw [isComplete, isComplete, unit?_setStatus_of_ne hk]

/-- The records do not tell two graphs apart that differ in what `f` forgets. -/
theorem map_records_update {α : Type} {f : WorkUnit → WorkUnit} {forget : WorkUnit → α}
    (h : ∀ u, forget (f u) = forget u) :
    (g.update id f).records.map forget = g.records.map forget := by
  have values : (g.live.modify id f).values.map forget = g.live.values.map forget := by
    simp only [IdMap.modify, IdMap.mapValues, IdMap.values, List.map_map]
    refine List.map_congr_left fun e _ => ?_
    by_cases he : e.1 = id
    · simp [he, h]
    · simp [he]
  rw [records, records, List.map_append, List.map_append]
  exact congrArg (· ++ _) values

theorem eq_of_records_update (hg : g.Keyed) {f : WorkUnit → WorkUnit} (hf : ∀ u, (f u).id = u.id)
    (live : g.unit? id = some u) (same : (g.update id f).records = g.records) : f u = u := by
  have values : (g.update id f).live.values = g.live.values := List.append_cancel_right same
  have changed : f u ∈ g.live.values :=
    values ▸ mem_live_values.2 ⟨id, unit?_update_self live⟩
  obtain ⟨k, hk⟩ := mem_live_values.1 changed
  have hid : k = id := calc
    k = (f u).id := (hg.live k _ hk).symm
    _ = u.id := hf u
    _ = id := hg.live id u live
  rw [hid, live] at hk
  exact (Option.some.inj hk).symm

/-! ### Growing the graph -/

theorem addUnit_eq_ok (h : g.addUnit u = .ok g') :
    g.isTaken u.id = false ∧ (∀ d ∈ u.dependencies, g.checkEdge u d = .ok ()) ∧
      g' = { g with live := g.live.insert u.id { u with archived := false } } := by
  unfold addUnit at h
  split at h
  · cases h
  · next ht =>
    obtain ⟨⟨⟩, hedges, hg⟩ := Except.bind_eq_ok_iff.1 h
    exact ⟨by simpa using ht, Except.forM_eq_ok_iff.1 hedges, (Except.ok.inj hg).symm⟩

theorem Keyed.addUnit (hg : g.Keyed) (h : g.addUnit u = .ok g') : g'.Keyed := by
  obtain ⟨_, _, rfl⟩ := addUnit_eq_ok h
  exact ⟨IdMap.forall_insert hg.live rfl, hg.archived⟩

theorem addEdge_eq_ok (h : g.addEdge source target = .ok g') :
    ∃ u, g.unit? source = some u ∧ g.checkEdge u target = .ok () ∧
      g' = g.update source fun u => { u with dependencies := u.dependencies.insert target } := by
  obtain ⟨u, hu, h⟩ := Except.bind_eq_ok_iff.1 h
  obtain ⟨⟨⟩, hedge, hg⟩ := Except.bind_eq_ok_iff.1 h
  exact ⟨u, get_eq_ok_iff.1 hu, hedge, (Except.ok.inj hg).symm⟩

theorem Keyed.addEdge (hg : g.Keyed) (h : g.addEdge source target = .ok g') : g'.Keyed := by
  obtain ⟨u, _, _, rfl⟩ := addEdge_eq_ok h
  exact hg.update fun _ => rfl

/-! ### Taking a unit out -/

theorem archive_eq_ok (h : g.archive id = .ok (u, g')) :
    ∃ v, g.unit? id = some v ∧ g.dependentsOf id = [] ∧ u = { v with archived := true } ∧
      g' = ⟨g.live.erase id, g.archived.insert id u⟩ := by
  obtain ⟨v, hv, h⟩ := Except.bind_eq_ok_iff.1 h
  split at h
  · next hd =>
    cases h
    exact ⟨v, get_eq_ok_iff.1 hv, hd, rfl, rfl⟩
  · cases h

theorem Keyed.archive (hg : g.Keyed) (h : g.archive id = .ok (u, g')) : g'.Keyed := by
  obtain ⟨v, hv, _, rfl, rfl⟩ := archive_eq_ok h
  exact ⟨IdMap.forall_erase hg.live, IdMap.forall_insert hg.archived (hg.live id v hv)⟩

/-! ### Reading the graph back from records -/

theorem insertRecord_eq_ok (h : g.insertRecord u = .ok g') :
    g.isTaken u.id = false ∧
      (u.archived = true ∧ g' = { g with archived := g.archived.insert u.id u } ∨
        u.archived = false ∧ g' = { g with live := g.live.insert u.id u }) := by
  unfold insertRecord at h
  split at h
  · cases h
  · next ht =>
    refine ⟨by simpa using ht, ?_⟩
    split at h
    · next ha => exact .inl ⟨ha, (Except.ok.inj h).symm⟩
    · next ha => exact .inr ⟨by simpa using ha, (Except.ok.inj h).symm⟩

theorem ofRecords_eq_ok {us : List WorkUnit} (h : ofRecords us = .ok g) :
    us.foldlM insertRecord empty = .ok g ∧ g.dangling? = none := by
  obtain ⟨g', hfold, hd⟩ := Except.bind_eq_ok_iff.1 h
  cases hdang : g'.dangling? with
  | none =>
      rw [hdang] at hd
      cases hd
      exact ⟨hfold, hdang⟩
  | some id =>
      rw [hdang] at hd
      cases hd

/-- What holds of the empty graph and is kept whenever a record is taken in holds of every graph
that is read back. -/
theorem ofRecords_induction {P : Graph → Prop} {us : List WorkUnit} (h : ofRecords us = .ok g)
    (hempty : P empty)
    (hstep : ∀ g u g', u ∈ us → P g → g.insertRecord u = .ok g' → P g') : P g := by
  -- The induction is on the records that are still to be taken in.
  have fold : ∀ (vs : List WorkUnit) (g₀ : Graph), (∀ v ∈ vs, v ∈ us) → P g₀ →
      vs.foldlM insertRecord g₀ = .ok g → P g := by
    intro vs
    induction vs with
    | nil =>
        intro g₀ _ hp hg
        cases hg
        exact hp
    | cons v vs ih =>
        intro g₀ hsub hp hg
        rw [List.foldlM_cons] at hg
        obtain ⟨g₁, hv, hg⟩ := Except.bind_eq_ok_iff.1 hg
        exact ih g₁ (fun w hw => hsub w (List.mem_cons_of_mem _ hw))
          (hstep g₀ v g₁ (hsub v List.mem_cons_self) hp hv) hg
  exact fold us empty (fun _ hv => hv) hempty (ofRecords_eq_ok h).1

theorem Keyed.insertRecord (hg : g.Keyed) (h : g.insertRecord u = .ok g') : g'.Keyed := by
  obtain ⟨_, ⟨_, rfl⟩ | ⟨_, rfl⟩⟩ := insertRecord_eq_ok h
  · exact ⟨hg.live, IdMap.forall_insert hg.archived rfl⟩
  · exact ⟨IdMap.forall_insert hg.live rfl, hg.archived⟩

theorem keyed_ofRecords {us : List WorkUnit} (h : ofRecords us = .ok g) : g.Keyed :=
  ofRecords_induction h keyed_empty fun _ _ _ _ => Keyed.insertRecord

theorem mem_of_ofRecords {us : List WorkUnit} (h : ofRecords us = .ok g)
    (hu : g.unit? id = some u) : u ∈ us ∧ u.archived = false := by
  refine ofRecords_induction (P := fun g => ∀ id u, g.unit? id = some u → u ∈ us ∧ u.archived = false)
    h ?_ ?_ id u hu
  · intro id u hu
    cases hu
  · intro g v g' hv hp hg'
    obtain ⟨_, ⟨_, rfl⟩ | ⟨ha, rfl⟩⟩ := insertRecord_eq_ok hg'
    · exact hp
    · exact IdMap.forall_insert hp ⟨hv, ha⟩

theorem unit?_insertRecord (h : g.insertRecord u = .ok g') {v : WorkUnit}
    (live : g.unit? id = some v) : g'.unit? id = some v := by
  obtain ⟨free, ⟨_, rfl⟩ | ⟨_, rfl⟩⟩ := insertRecord_eq_ok h
  · exact live
  · have hne : id ≠ u.id := by
      rintro rfl
      cases (isTaken_eq_false_iff.1 free).1.symm.trans live
    rw [unit?, IdMap.find?_insert, if_neg hne]
    exact live

theorem unit?_ofRecords {us : List WorkUnit} (h : ofRecords us = .ok g) (hu : u ∈ us)
    (unarchived : u.archived = false) : g.unit? u.id = some u := by
  have fold : ∀ (vs : List WorkUnit) (g₀ : Graph), vs.foldlM insertRecord g₀ = .ok g →
      (∀ id v, g₀.unit? id = some v → g.unit? id = some v) ∧
        (u ∈ vs → g.unit? u.id = some u) := by
    intro vs
    induction vs with
    | nil =>
        intro g₀ hg
        cases hg
        exact ⟨fun _ _ live => live, by simp⟩
    | cons v vs ih =>
        intro g₀ hg
        rw [List.foldlM_cons] at hg
        obtain ⟨g₁, hv, hg⟩ := Except.bind_eq_ok_iff.1 hg
        obtain ⟨stays, later⟩ := ih g₁ hg
        refine ⟨fun id w live => stays id w (unit?_insertRecord hv live), ?_⟩
        intro hmem
        rcases List.mem_cons.1 hmem with rfl | hmem
        · obtain ⟨_, ⟨archived, _⟩ | ⟨_, rfl⟩⟩ := insertRecord_eq_ok hv
          · cases unarchived.symm.trans archived
          · refine stays u.id u ?_
            rw [unit?, IdMap.find?_insert, if_pos rfl]
        · exact later hmem
  exact (fold us empty (ofRecords_eq_ok h).1).2 hu

end BuildAdmission.Graph
