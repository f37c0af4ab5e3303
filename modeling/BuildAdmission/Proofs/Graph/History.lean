import BuildAdmission.Proofs.Graph.Built

namespace BuildAdmission

/-- The changes that can be asked of a graph, with their arguments. -/
inductive Change where
  | addUnit (u : WorkUnit)
  | addEdge (source target : UnitId)
  | archive (id : UnitId)
  | split (plan : SplitPlan)

namespace Graph

variable {g g' start : Graph} {u v : WorkUnit} {us : List WorkUnit} {id k : UnitId} {c : Change}
  {cs : List Change}

def change (g : Graph) : Change → Except Refusal Graph
  | .addUnit u => g.addUnit u
  | .addEdge source target => g.addEdge source target
  | .archive id => (g.archive id).map (·.2)
  | .split plan => (g.split plan).map (·.2)

/-- A change that is refused leaves the graph as it is. -/
def attempt (g : Graph) (c : Change) : Graph := (g.change c).toOption.getD g

def after (g : Graph) (cs : List Change) : Graph := cs.foldl attempt g

/-- A graph to begin with is empty or is read from records. -/
inductive Begun : Graph → Prop
  | empty : Begun empty
  | read {us : List WorkUnit} {g : Graph} (h : ofRecords us = .ok g) : Begun g

/-! ### Reading the records back -/

/-- Keeps a record with the live units or with the archived ones. -/
def put (g : Graph) (u : WorkUnit) : Graph :=
  if u.archived then { g with archived := g.archived.insert u.id u }
  else { g with live := g.live.insert u.id u }

theorem insertRecord_eq_put (free : g.isTaken u.id = false) : g.insertRecord u = .ok (g.put u) := by
  rw [insertRecord, free, put]
  cases u.archived <;> rfl

theorem isTaken_put (hk : k ≠ u.id) : (g.put u).isTaken k = g.isTaken k := by
  unfold put
  split <;> simp [isTaken, IdMap.contains, IdMap.find?_insert, hk]

theorem foldlM_insertRecord (distinct : us.Pairwise (·.id ≠ ·.id))
    (free : ∀ u ∈ us, g.isTaken u.id = false) : us.foldlM insertRecord g = .ok (us.foldl put g) := by
  induction us generalizing g with
  | nil => rfl
  | cons u us ih =>
      obtain ⟨hu, distinct⟩ := List.pairwise_cons.1 distinct
      obtain ⟨hfree, free⟩ := List.forall_mem_cons.1 free
      rw [List.foldlM_cons, insertRecord_eq_put hfree, Except.ok_bind, List.foldl_cons]
      apply ih distinct
      intro v hv
      rw [isTaken_put (hu v hv).symm]
      exact free v hv

theorem foldl_put (us : List WorkUnit) (g : Graph) :
    us.foldl put g = ⟨(us.filter (!·.archived)).foldl (fun m u => m.insert u.id u) g.live,
      (us.filter (·.archived)).foldl (fun m u => m.insert u.id u) g.archived⟩ := by
  induction us generalizing g with
  | nil => rfl
  | cons u us ih =>
      rw [List.foldl_cons, ih, put]
      cases mark : u.archived <;> simp [mark]

theorem pairwise_records (keyed : g.Keyed) (apart : g.Apart) :
    g.records.Pairwise (·.id ≠ ·.id) := by
  refine List.pairwise_append.2 ⟨keyed.pairwise_values, IdMap.pairwise_values keyed.archived, ?_⟩
  intro u hu v hv same
  obtain ⟨x, live⟩ := mem_live_values.1 hu
  obtain ⟨y, archived⟩ := IdMap.mem_values_iff.1 hv
  obtain rfl : x = y := calc
    x = u.id := (keyed.live x u live).symm
    _ = v.id := same
    _ = y := keyed.archived y v archived
  cases (apart x u live).symm.trans archived

theorem foldl_put_records (keyed : g.Keyed) (marked : g.Marked) : g.records.foldl put empty = g := by
  have live : ∀ u ∈ g.live.values, u.archived = false := by
    intro u hu
    obtain ⟨id, h⟩ := mem_live_values.1 hu
    exact marked.live id u h
  have archived : ∀ u ∈ g.archived.values, u.archived = true := by
    intro u hu
    obtain ⟨id, h⟩ := IdMap.mem_values_iff.1 hu
    exact marked.archived id u h
  have liveOnes : g.records.filter (!·.archived) = g.live.values := by
    rw [records, List.filter_append, List.filter_eq_self.2, List.filter_eq_nil_iff.2,
      List.append_nil]
    · simpa using archived
    · simpa using live
  have archivedOnes : g.records.filter (·.archived) = g.archived.values := by
    rw [records, List.filter_append, List.filter_eq_nil_iff.2, List.filter_eq_self.2,
      List.nil_append]
    · exact archived
    · simpa using live
  rw [foldl_put, liveOnes, archivedOnes]
  change (⟨g.live.values.foldl (fun m u => m.insert u.id u) ∅,
    g.archived.values.foldl (fun m u => m.insert u.id u) ∅⟩ : Graph) = g
  rw [IdMap.foldl_insert_values keyed.live, IdMap.foldl_insert_values keyed.archived]

theorem ofRecords_records (keyed : g.Keyed) (apart : g.Apart) (marked : g.Marked)
    (closed : g.Closed) : ofRecords g.records = .ok g := by
  have fold : g.records.foldlM insertRecord empty = .ok g := by
    rw [foldlM_insertRecord (pairwise_records keyed apart) fun _ _ => rfl,
      foldl_put_records keyed marked]
  rw [ofRecords, fold, Except.ok_bind, dangling?_eq_none_iff.2 closed]
  rfl

theorem Built.ofRecords_records (h : g.Built) : ofRecords g.records = .ok g :=
  Graph.ofRecords_records h.keyed h.apart h.marked h.closed

/-- Revises all units that are at work. -/
def reviseAll (g : Graph) (f : WorkUnit → WorkUnit) : Graph :=
  { g with live := g.live.mapValues fun _ => f }

theorem unit?_reviseAll (g : Graph) (f : WorkUnit → WorkUnit) (id : UnitId) :
    (g.reviseAll f).unit? id = (g.unit? id).map f := IdMap.find?_mapValues ..

theorem records_reviseAll (g : Graph) (f : WorkUnit → WorkUnit) :
    (g.reviseAll f).records = g.live.values.map f ++ g.archived.values := by
  rw [records, reviseAll, IdMap.values_mapValues]

theorem Built.reviseAll {f : WorkUnit → WorkUnit} (hg : g.Built) (hf : Revision f) :
    (g.reviseAll f).Built := by
  have revised {id : UnitId} {v : WorkUnit} (live : (g.reviseAll f).unit? id = some v) :
      ∃ u, g.unit? id = some u ∧ f u = v := by
    rw [unit?_reviseAll] at live
    exact Option.map_eq_some_iff.1 live
  refine .read (Graph.ofRecords_records ⟨?_, hg.keyed.archived⟩ ?_ ⟨?_, hg.marked.archived⟩ ?_)
  · intro id v live
    obtain ⟨u, before, rfl⟩ := revised live
    exact (hf.id u).trans (hg.keyed.live id u before)
  · intro id v live
    obtain ⟨u, before, rfl⟩ := revised live
    exact hg.apart id u before
  · intro id v live
    obtain ⟨u, before, rfl⟩ := revised live
    exact (hf.archived u).trans (hg.marked.live id u before)
  · rw [closed_iff]
    intro x v live d hd
    obtain ⟨u, before, rfl⟩ := revised live
    rw [hf.dependencies] at hd
    obtain ⟨w, hw⟩ := closed_iff.1 hg.closed x u before d hd
    exact ⟨f w, by rw [unit?_reviseAll, hw, Option.map_some]⟩

/-! ### What a change keeps -/

/-- In a later graph no name is given up, and what is archived stays as it is. -/
structure Later (g g' : Graph) : Prop where
  live : ∀ id u, g.unit? id = some u → g'.isTaken id = true
  archived : ∀ id u, g.archived.find? id = some u → g'.archived.find? id = some u

theorem Later.refl (g : Graph) : Later g g :=
  ⟨fun _ u live => isTaken_iff.2 (.inl ⟨u, live⟩), fun _ _ h => h⟩

theorem Later.taken (h : Later g g') (taken : g.isTaken id = true) : g'.isTaken id = true := by
  rcases isTaken_iff.1 taken with ⟨u, live⟩ | ⟨u, archived⟩
  · exact h.live id u live
  · exact isTaken_iff.2 (.inr ⟨u, h.archived id u archived⟩)

theorem Later.free (h : Later g g') (free : g'.isTaken id = false) : g.isTaken id = false :=
  Bool.eq_false_iff.2 fun taken => Bool.eq_false_iff.1 free (h.taken taken)

theorem Later.trans {g'' : Graph} (h : Later g g') (h' : Later g' g'') : Later g g'' :=
  ⟨fun id u live => h'.taken (h.live id u live),
    fun id u archived => h'.archived id u (h.archived id u archived)⟩

theorem later_update (g : Graph) (id : UnitId) (f : WorkUnit → WorkUnit) :
    Later g (g.update id f) := by
  refine ⟨?_, fun _ _ h => h⟩
  intro k u live
  rw [isTaken_iff, unit?_update, live]
  split
  · exact .inl ⟨f u, rfl⟩
  · exact .inl ⟨u, rfl⟩

theorem later_addUnit (h : g.addUnit u = .ok g') : Later g g' := by
  obtain ⟨_, _, rfl⟩ := addUnit_eq_ok h
  refine ⟨?_, fun _ _ h => h⟩
  intro k v live
  exact isTaken_iff.2 (.inl (unit?_insert_live _ ⟨v, live⟩))

theorem Built.revised {f : WorkUnit → WorkUnit} (hg : g.Built) (id : UnitId) (hf : Revision f) :
    (g.update id f).Built ∧ Later g (g.update id f) :=
  ⟨hg.revise id hf, later_update g id f⟩

/-- A live unit that is archived was not archived before. -/
theorem Apart.archived_insert (hg : g.Apart) (live : g.unit? id = some u)
    (archived : g.archived.find? k = some v) (w : WorkUnit) :
    (g.archived.insert id w).find? k = some v := by
  have hne : k ≠ id := by
    rintro rfl
    cases (hg k u live).symm.trans archived
  rw [IdMap.find?_insert, if_neg hne]
  exact archived

theorem Apart.later_archive (hg : g.Apart) (h : g.archive id = .ok (u, g')) : Later g g' := by
  obtain ⟨v, live, _, rfl, rfl⟩ := archive_eq_ok h
  refine ⟨?_, fun _ _ archived => hg.archived_insert live archived _⟩
  intro k w hw
  rw [isTaken_iff, unit?, IdMap.find?_erase, IdMap.find?_insert]
  split
  · exact .inr ⟨_, rfl⟩
  · exact .inl ⟨w, hw⟩

theorem Apart.later_split {p : SplitPlan} {ids : List UnitId} (hg : g.Apart)
    (h : g.split p = .ok (ids, g')) : Later g g' := by
  obtain ⟨whole, live, _⟩ := split_eq_ok h
  have retired := archived_split h live
  constructor
  · intro k w hw
    rw [isTaken_iff, unit?_split h (not_mem_partIds_of_live h hw), retired, IdMap.find?_insert, hw]
    split
    · exact .inr ⟨_, rfl⟩
    · split
      · exact .inl ⟨_, rfl⟩
      · exact .inl ⟨w, rfl⟩
  · intro k v archived
    rw [retired]
    exact hg.archived_insert live archived _

theorem Built.change (hg : g.Built) (h : g.change c = .ok g') : g'.Built ∧ Later g g' := by
  cases c with
  | addUnit u => exact ⟨hg.addUnit h, later_addUnit h⟩
  | addEdge source target =>
      obtain ⟨_, _, _, rfl⟩ := addEdge_eq_ok h
      exact ⟨hg.addEdge h, later_update ..⟩
  | archive id =>
      obtain ⟨⟨u, _⟩, archived, rfl⟩ := Except.map_eq_ok_iff.1 h
      exact ⟨hg.archive archived, hg.apart.later_archive archived⟩
  | split plan =>
      obtain ⟨⟨ids, _⟩, accepted, rfl⟩ := Except.map_eq_ok_iff.1 h
      exact ⟨hg.split accepted, hg.apart.later_split accepted⟩

/-! ### What a run of changes keeps -/

theorem attempt_cases (g : Graph) (c : Change) :
    g.attempt c = g ∨ g.change c = .ok (g.attempt c) := by
  unfold attempt
  cases g.change c with
  | error e => exact .inl rfl
  | ok g' => exact .inr rfl

theorem after_append (g : Graph) (cs ds : List Change) :
    g.after (cs ++ ds) = (g.after cs).after ds :=
  List.foldl_append

theorem Built.after (hg : g.Built) (cs : List Change) : (g.after cs).Built ∧ Later g (g.after cs) := by
  induction cs generalizing g with
  | nil => exact ⟨hg, .refl g⟩
  | cons c cs ih =>
      change ((g.attempt c).after cs).Built ∧ Later g ((g.attempt c).after cs)
      rcases attempt_cases g c with same | changed
      · rw [same]
        exact ih hg
      · obtain ⟨built, later⟩ := hg.change changed
        obtain ⟨built', later'⟩ := ih built
        exact ⟨built', later.trans later'⟩

theorem Begun.built (h : Begun g) : g.Built := by
  cases h with
  | empty =>
      have nothing : ofRecords [] = .ok Graph.empty := rfl
      exact .read nothing
  | read h => exact .read h

/-- Whatever changes are asked of a graph, granted or refused: the units stay under their names, live
or archived and marked so, and depend on live units only; the records read back to the same graph;
and no name is given up or comes back to life. -/
theorem Begun.shape_kept (h : Begun start) (cs : List Change) :
    (start.after cs).Keyed ∧ (start.after cs).Apart ∧ (start.after cs).Marked ∧
      (start.after cs).Closed ∧ ofRecords (start.after cs).records = .ok (start.after cs) ∧
      ∀ earlier later, cs = earlier ++ later →
        (∀ id, (start.after earlier).isTaken id = true → (start.after cs).isTaken id = true) ∧
        ∀ id u, (start.after earlier).archived.find? id = some u →
          (start.after cs).archived.find? id = some u ∧ (start.after cs).unit? id = none := by
  have built : (start.after cs).Built := (h.built.after cs).1
  refine ⟨built.keyed, built.apart, built.marked, built.closed, built.ofRecords_records, ?_⟩
  rintro earlier later rfl
  have since : Later (start.after earlier) (start.after (earlier ++ later)) := by
    rw [after_append]
    exact ((h.built.after earlier).1.after later).2
  refine ⟨fun id taken => since.taken taken, ?_⟩
  intro id u archived
  have stays := since.archived id u archived
  refine ⟨stays, ?_⟩
  by_contra live
  obtain ⟨v, live⟩ := Option.ne_none_iff_exists'.1 live
  cases (built.apart id v live).symm.trans stays

def pair : List WorkUnit :=
  [⟨"app", .core, .pending, 0, 1, .ofList ["lib"], 0, false⟩,
    ⟨"lib", .core, .pending, 0, 1, ∅, 0, false⟩]

/-- Takes out a unit that is still needed, splits it, and brings it up again: the first and the last
are refused. -/
def rounds : List Change :=
  [.archive "lib", .split ⟨"lib", [⟨"new", .base, .complete, 0, 1, ∅, 0, true⟩], ∅⟩,
    .addUnit ⟨"lib", .core, .pending, 0, 1, ∅, 0, false⟩]

theorem shape_kept_rounds : ∃ start, ofRecords pair = .ok start ∧ Begun start ∧
    (start.after rounds).live.keys = ["app", "new"] ∧
    (start.after rounds).archived.keys = ["lib"] ∧
    ofRecords (start.after rounds).records = .ok (start.after rounds) ∧
    (start.after rounds).unit? "lib" = none := by
  obtain ⟨start, read⟩ : ∃ start, ofRecords pair = .ok start := ⟨_, rfl⟩
  obtain ⟨_, _, _, _, reread, since⟩ := Begun.shape_kept (.read read) rounds
  have retired : (start.after (rounds.take 2)).archived.find? "lib" =
      some ⟨"lib", .core, .pending, 0, 1, ∅, 0, true⟩ := by
    cases read
    decide +kernel
  refine ⟨start, read, .read read, ?_, ?_, reread, ?_⟩
  · cases read
    decide +kernel
  · cases read
    decide +kernel
  · exact ((since (rounds.take 2) (rounds.drop 2) rfl).2 "lib" _ retired).2

end Graph

end BuildAdmission
