import BuildAdmission.Proofs.Graph.Levels
import BuildAdmission.Proofs.Graph.Order

namespace BuildAdmission.Graph

open Relation

variable {g result other : Graph} {p : SplitPlan} {ids : List UnitId} {whole : WorkUnit}
  {id : UnitId}

/-- The names in a plan are such as the graph asks for: those of the parts are new, and the others
are of parts or of units that are there. -/
structure Fits (g : Graph) (p : SplitPlan) : Prop where
  nonempty : p.parts ≠ []
  distinct : (p.parts.map (·.id)).Nodup
  fresh : ∀ u ∈ p.parts, g.unit? u.id = none ∧ g.archived.find? u.id = none
  remap : ∀ id targets, p.remap.find? id = some targets →
    g.DependsOn id p.whole ∧ ∀ t ∈ targets, ∃ u ∈ p.parts, u.id = t
  declared : ∀ u ∈ p.parts, ∀ d ∈ u.dependencies,
    (∃ v ∈ p.parts, v.id = d) ∨ d ≠ p.whole ∧ ∃ v, g.unit? d = some v

/-- The graph that a plan describes: the whole is archived, each part starts afresh with the
dependencies of the whole besides its own, and each dependent of the whole depends on the parts
that the plan gives it, or on all. -/
structure Replaces (g : Graph) (p : SplitPlan) (whole : WorkUnit) (result : Graph) : Prop where
  archived : result.archived = g.archived.insert p.whole { whole with archived := true }
  gone : result.unit? p.whole = none
  part : ∀ u ∈ p.parts, result.unit? u.id = some { u with
    status := .pending
    retryCount := 0
    archived := false
    dependencies := u.dependencies.union whole.dependencies }
  dependent : ∀ id u, id ≠ p.whole → g.unit? id = some u → p.whole ∈ u.dependencies →
    result.unit? id = some { u with
      dependencies :=
        (u.dependencies.erase p.whole).union ((p.remap.find? id).getD p.partIds) }
  rest : ∀ id, id ≠ p.whole → (∀ u ∈ p.parts, u.id ≠ id) → ¬ g.DependsOn id p.whole →
    result.unit? id = g.unit? id

theorem Replaces.unique (h : g.Replaces p whole result) (h' : g.Replaces p whole other) :
    result = other := by
  have live (id : UnitId) : result.unit? id = other.unit? id := by
    by_cases hwhole : id = p.whole
    · rw [hwhole, h.gone, h'.gone]
    · by_cases hpart : ∃ u ∈ p.parts, u.id = id
      · obtain ⟨u, hu, rfl⟩ := hpart
        rw [h.part u hu, h'.part u hu]
      · by_cases hdep : g.DependsOn id p.whole
        · obtain ⟨u, hu, hmem⟩ := dependsOn_iff.1 hdep
          rw [h.dependent id u hwhole hu hmem, h'.dependent id u hwhole hu hmem]
        · have outside : ∀ u ∈ p.parts, u.id ≠ id := fun u hu he => hpart ⟨u, hu, he⟩
          rw [h.rest id hwhole outside hdep, h'.rest id hwhole outside hdep]
  cases result with
  | mk units _ =>
      cases other with
      | mk units' _ =>
          obtain rfl : units = units' := IdMap.ext live
          rw [Graph.mk.injEq]
          exact ⟨rfl, h.archived.trans h'.archived.symm⟩

/-! ### The checks of a plan -/

theorem faultless_names_iff (hg : g.Keyed) : g.splitNameFault? p = none ↔
    p.parts ≠ [] ∧ (p.parts.map (·.id)).Nodup ∧
      (∀ u ∈ p.parts, g.unit? u.id = none ∧ g.archived.find? u.id = none) ∧
      ∀ id targets, p.remap.find? id = some targets →
        g.DependsOn id p.whole ∧ ∀ t ∈ targets, ∃ u ∈ p.parts, u.id = t := by
  have distinct : p.partIds.toList.length = p.parts.length ↔ (p.parts.map (·.id)).Nodup := by
    rw [← IdSet.length_ofList_iff, List.length_map]
    rfl
  have fresh : (∀ k ∈ p.partIds, g.isTaken k = false) ↔
      ∀ u ∈ p.parts, g.unit? u.id = none ∧ g.archived.find? u.id = none := by
    simp only [mem_partIds, isTaken_eq_false_iff]
    constructor
    · intro h u hu
      exact h u.id ⟨u, hu, rfl⟩
    · rintro h k ⟨u, hu, rfl⟩
      exact h u hu
  rw [splitNameFault?_eq_none_iff, distinct, fresh]
  simp only [mem_dependentsOf hg, mem_partIds]

theorem unknownPartDependency?_withParts (distinct : (p.parts.map (·.id)).Nodup) :
    (g.withParts p whole).unknownPartDependency? p = none ↔
      ∀ u ∈ p.parts, ∀ d, d ∈ u.dependencies ∨ d ∈ whole.dependencies →
        (∃ v ∈ p.parts, v.id = d) ∨ d ≠ p.whole ∧ ∃ v, g.unit? d = some v := by
  have dependsOn {u : WorkUnit} (hu : u ∈ p.parts) (d : UnitId) :
      (g.withParts p whole).DependsOn u.id d ↔ d ∈ u.dependencies ∨ d ∈ whole.dependencies := by
    rw [dependsOn_iff, unit?_withParts_part g whole distinct hu, ← IdSet.mem_union]
    simp [partOf]
  simp only [unknownPartDependency?_eq_none_iff, exists_unit?_withParts_iff, mem_partIds]
  constructor
  · intro h u hu d hd
    exact h u.id ⟨u, hu, rfl⟩ d ((dependsOn hu d).2 hd)
  · rintro h k ⟨u, hu, rfl⟩ d hd
    exact h u hu d ((dependsOn hu d).1 hd)

theorem Fits.not_mem_partIds (fits : g.Fits p) {u : WorkUnit} (live : g.unit? id = some u) :
    id ∉ p.partIds := by
  intro hpart
  obtain ⟨v, hv, rfl⟩ := mem_partIds.1 hpart
  cases (fits.fresh v hv).1.symm.trans live

theorem Fits.replaces (hg : g.Keyed) (fits : g.Fits p) (live : g.unit? p.whole = some whole) :
    g.Replaces p whole ((g.withParts p whole).rewire p (g.dependentsOf p.whole)) := by
  constructor
  · rw [archived_rewire]
    rfl
  · rw [unit?_rewire, unit?_withParts (fits.not_mem_partIds live), if_pos rfl]
    split <;> rfl
  · intro u hu
    have old : u.id ∉ g.dependentsOf p.whole := by
      rw [mem_dependentsOf hg, dependsOn_iff, (fits.fresh u hu).1]
      simp
    rw [unit?_rewire, if_neg old, unit?_withParts_part g whole fits.distinct hu]
    rfl
  · intro id u hne hu hdep
    have dependent : id ∈ g.dependentsOf p.whole :=
      (mem_dependentsOf hg).2 (dependsOn_iff.2 ⟨u, hu, hdep⟩)
    rw [unit?_rewire, if_pos dependent, unit?_withParts (fits.not_mem_partIds hu), if_neg hne, hu]
    rfl
  · intro id hne outside hdep
    have hpart : id ∉ p.partIds := by
      intro hpart
      obtain ⟨u, hu, he⟩ := mem_partIds.1 hpart
      exact outside u hu he
    rw [unit?_rewire, if_neg (mt (mem_dependentsOf hg).1 hdep), unit?_withParts hpart, if_neg hne]

/-! ### Plans for a valid graph -/

theorem fits_of_split (hg : g.Keyed) (h : g.split p = .ok (ids, result)) : g.Fits p := by
  obtain ⟨whole, _, names, unknown, _⟩ := split_eq_ok h
  obtain ⟨nonempty, distinct, fresh, remap⟩ := (faultless_names_iff hg).1 names
  rw [unknownPartDependency?_withParts distinct] at unknown
  exact ⟨nonempty, distinct, fresh, remap, fun u hu d hd => unknown u hu d (.inl hd)⟩

theorem split_of_fits (hg : g.Keyed) (closed : g.Closed) (fits : g.Fits p)
    (live : g.unit? p.whole = some whole) (apart : ¬ g.DependsOn p.whole p.whole)
    (h : g.Replaces p whole result) (acyclic : ∀ x, ¬ result.OnCycle x) (graded : result.Graded) :
    g.split p = .ok (p.partIds.toList, result) := by
  obtain rfl := h.unique (fits.replaces hg live)
  have keyed := (hg.withParts live).rewire (p := p) (g.dependentsOf p.whole)
  apply split_of_faultless live
  · exact (faultless_names_iff hg).2
      ⟨fits.nonempty, fits.distinct, fits.fresh, fits.remap⟩
  · rw [unknownPartDependency?_withParts fits.distinct]
    rintro u hu d (hd | hd)
    · exact fits.declared u hu d hd
    -- What the parts take on is there and is not the whole.
    · have inherited : g.DependsOn p.whole d := dependsOn_iff.2 ⟨whole, live, hd⟩
      refine .inr ⟨?_, closed _ _ inherited⟩
      rintro rfl
      exact apart inherited
  · rw [newTangle?_eq_none_iff, detectCycles_eq_nil_iff.2 acyclic,
      (levelViolations_eq_nil_iff keyed).2 graded]
    simp

/-- A valid graph takes exactly the plans whose names fit and that describe a valid graph, and goes
over to the graph that they describe. -/
theorem Built.split_exact (built : g.Built) (valid : g.validate = .ok ()) (p : SplitPlan) :
    (∀ ids result, g.split p = .ok (ids, result) ↔
      ∃ whole, g.unit? p.whole = some whole ∧ g.Fits p ∧ g.Replaces p whole result ∧
        (∀ x, ¬ result.OnCycle x) ∧ result.Graded ∧ ids = p.partIds.toList) ∧
      ∀ whole, g.unit? p.whole = some whole → g.Fits p → ∃! result, g.Replaces p whole result := by
  obtain ⟨uncycled, graded⟩ := validate_eq_ok_iff.1 valid
  have acyclic : ∀ x, ¬ g.OnCycle x := detectCycles_eq_nil_iff.1 uncycled
  constructor
  · intro ids result
    constructor
    · intro h
      obtain ⟨whole, live, _, _, _, rfl, hresult⟩ := split_eq_ok h
      have fits := fits_of_split built.keyed h
      refine ⟨whole, live, fits, ?_, ?_, ?_, rfl⟩
      · rw [hresult]
        exact fits.replaces built.keyed live
      · apply not_onCycle_split h
        intro u hu
        exact acyclic u (TransGen.mono (fun _ _ hxy => hxy.1) _ _ hu)
      · rw [← levelViolations_eq_nil_iff (built.keyed.split h), List.eq_nil_iff_forall_not_mem]
        intro v hv
        have old := levelViolations_split built.keyed h hv
        rw [graded] at old
        cases old
    · rintro ⟨whole, live, fits, replaces, hacyclic, hgraded, rfl⟩
      exact split_of_fits built.keyed built.closed fits live
        (fun hself => acyclic _ (.single hself)) replaces hacyclic hgraded
  · intro whole live fits
    exact ⟨_, fits.replaces built.keyed live, fun other h => h.unique (fits.replaces built.keyed live)⟩

def stack : List WorkUnit :=
  [⟨"app", .feature, .pending, 0, 1, .ofList ["lib"], 0, false⟩,
    ⟨"lib", .core, .failed, 0, 1, .ofList ["sys"], 2, false⟩,
    ⟨"sys", .base, .complete, 0, 1, ∅, 0, false⟩,
    ⟨"web", .feature, .pending, 0, 1, .ofList ["lib"], 0, false⟩]

/-- One dependent is to depend on one part only; the plan says nothing of the other. -/
def stackPlan : SplitPlan where
  whole := "lib"
  parts := [⟨"left", .core, .complete, 0, 1, ∅, 1, true⟩,
    ⟨"right", .core, .pending, 0, 1, .ofList ["left"], 0, false⟩]
  remap := .ofList [("app", .ofList ["left"])]

theorem split_exact_stack : ∃ g result, ofRecords stack = .ok g ∧ g.validate = .ok () ∧
    g.split stackPlan = .ok (["left", "right"], result) ∧ g.Fits stackPlan ∧
    (∀ x, ¬ result.OnCycle x) ∧ result.Graded ∧
    result.unit? "right" =
      some ⟨"right", .core, .pending, 0, 1, .ofList ["left", "sys"], 0, false⟩ ∧
    result.unit? "web" =
      some ⟨"web", .feature, .pending, 0, 1, .ofList ["left", "right"], 0, false⟩ := by
  obtain ⟨g, read⟩ : ∃ g, ofRecords stack = .ok g := ⟨_, rfl⟩
  have valid : g.validate = .ok () := by
    cases read
    decide +kernel
  obtain ⟨result, accepted⟩ : ∃ result, g.split stackPlan = .ok (["left", "right"], result) := by
    cases read
    exact ⟨_, rfl⟩
  obtain ⟨lib, live, fits, replaces, acyclic, graded, _⟩ :=
    ((Built.split_exact (.read read) valid stackPlan).1 _ _).1 accepted
  have web : g.unit? "web" =
      some ⟨"web", .feature, .pending, 0, 1, .ofList ["lib"], 0, false⟩ := by
    cases read
    decide +kernel
  have hlib : lib = ⟨"lib", .core, .failed, 0, 1, .ofList ["sys"], 2, false⟩ := by
    cases read
    cases live
    rfl
  refine ⟨g, result, read, valid, accepted, fits, acyclic, graded, ?_, ?_⟩
  · subst hlib
    exact replaces.part _ (List.mem_cons_of_mem _ List.mem_cons_self)
  · exact replaces.dependent "web" _ (by decide) web (by decide)

end BuildAdmission.Graph
