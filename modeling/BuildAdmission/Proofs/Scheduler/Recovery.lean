import BuildAdmission.Proofs.Scheduler.Restore
import BuildAdmission.Proofs.Storage.Keeping

namespace BuildAdmission

/-- The status in which a unit comes back when its run was cut off. -/
def Status.recovered (s : Status) (log : List Checkpoint) : Status :=
  if s.isActive then
    if 0 < Checkpoint.iterationOf log.getLast? then .checkpointed else .pending
  else s

namespace Status

variable {s : Status}

theorem recovered_of_inactive (inactive : s.isActive = false) (log : List Checkpoint) :
    s.recovered log = s := by
  rw [recovered, inactive]
  rfl

theorem isActive_recovered (s : Status) (log : List Checkpoint) :
    (s.recovered log).isActive = false := by
  unfold recovered
  split
  · split <;> rfl
  · next inactive => exact Bool.eq_false_iff.2 inactive

end Status

/-- A unit as it comes back after a restart. -/
def WorkUnit.recovered (u : WorkUnit) (log : UnitId → List Checkpoint) : WorkUnit :=
  if u.archived then u else { u with status := u.status.recovered (log u.id) }

namespace WorkUnit

variable {u : WorkUnit}

theorem recovered_of_live (unarchived : u.archived = false) (log : UnitId → List Checkpoint) :
    u.recovered log = { u with status := u.status.recovered (log u.id) } := by
  simp [recovered, unarchived]

theorem recovered_of_archived (archived : u.archived = true) (log : UnitId → List Checkpoint) :
    u.recovered log = u := if_pos archived

theorem recovered_of_inactive (inactive : u.status.isActive = false)
    (log : UnitId → List Checkpoint) : u.recovered log = u := by
  simp [recovered, Status.recovered_of_inactive inactive]

theorem revision_recovered (log : UnitId → List Checkpoint) : Graph.Revision (·.recovered log) := by
  constructor <;> intro u <;> simp only [recovered] <;> split <;> rfl

theorem recovered_recovered (u : WorkUnit) (log : UnitId → List Checkpoint) :
    (u.recovered log).recovered log = u.recovered log := by
  cases archived : u.archived with
  | true => rw [recovered_of_archived archived, recovered_of_archived archived]
  | false =>
      rw [recovered_of_live archived]
      exact recovered_of_inactive (Status.isActive_recovered ..) log

end WorkUnit

namespace Graph

variable {g : Graph} {log : UnitId → List Checkpoint} {id : UnitId}

/-- The units at work come back, and the archived ones stay as they are. -/
def recovered (g : Graph) (log : UnitId → List Checkpoint) : Graph := g.reviseAll (·.recovered log)

theorem Built.recovered (h : g.Built) (log : UnitId → List Checkpoint) : (g.recovered log).Built :=
  h.reviseAll (WorkUnit.revision_recovered log)

theorem Built.unit?_recovered (h : g.Built) (log : UnitId → List Checkpoint) (id : UnitId) :
    (g.recovered log).unit? id =
      (g.unit? id).map fun u => { u with status := u.status.recovered (log id) } := by
  rw [Graph.recovered, unit?_reviseAll]
  refine Option.map_congr fun u live => ?_
  rw [WorkUnit.recovered_of_live (h.marked.live id u live), h.keyed.live id u live]

theorem isTaken_recovered (g : Graph) (log : UnitId → List Checkpoint) (id : UnitId) :
    (g.recovered log).isTaken id = g.isTaken id := by
  rw [Bool.eq_iff_iff, isTaken_iff, isTaken_iff, recovered, unit?_reviseAll]
  simp [reviseAll]

theorem recovered_recovered (g : Graph) (log : UnitId → List Checkpoint) :
    (g.recovered log).recovered log = g.recovered log := by
  have live : ((g.recovered log).recovered log).live = (g.recovered log).live := by
    refine IdMap.ext fun id => ?_
    change ((g.recovered log).recovered log).unit? id = (g.recovered log).unit? id
    rw [recovered, recovered, unit?_reviseAll, unit?_reviseAll, Option.map_map]
    exact Option.map_congr fun u _ => WorkUnit.recovered_recovered u log
  exact congrArg (Graph.mk · g.archived) live

/-- The records of the graph that comes back are those that were read, each as it comes back. -/
theorem Built.map_recovered_records (h : g.Built) (log : UnitId → List Checkpoint) :
    g.records.map (·.recovered log) = (g.recovered log).records := by
  rw [records, List.map_append, Graph.recovered, records_reviseAll]
  congr 1
  refine (List.map_congr_left fun u hu => ?_).trans (List.map_id _)
  obtain ⟨id, archived⟩ := IdMap.mem_values_iff.1 hu
  exact WorkUnit.recovered_of_archived (h.marked.archived id u archived) log

end Graph

namespace Scheduler

open Op

variable {σ : Type} [Storage σ] {good : σ → Prop} {accepted : UnitId → Prop}
  {stored : σ → UnitId → List Checkpoint} {onFile : σ → List WorkUnit} {s : Scheduler}
  {storage storage' : σ} {limits : Limits} {budget : Budget} {log : UnitId → List Checkpoint}

theorem recover_stored (legible : Storage.Legible good stored) {u v : WorkUnit}
    (h : (recover u).run storage = (.ok v, storage')) (hs : good storage ∧ stored storage = log) :
    (good storage' ∧ stored storage' = log) ∧ v = u.recovered log := by
  obtain ⟨hgood, rfl⟩ := hs
  unfold recover at h
  split at h
  · next rests =>
    cases h
    refine ⟨⟨hgood, rfl⟩, ?_⟩
    cases archived : u.archived with
    | true => exact (WorkUnit.recovered_of_archived archived _).symm
    | false => exact (WorkUnit.recovered_of_inactive (by simpa [archived] using rests) _).symm
  · next rests =>
    obtain ⟨unarchived, active⟩ : u.archived = false ∧ u.status.isActive = true := by
      simpa using rests
    obtain ⟨latest, r, read, h⟩ := run_bind_eq_ok_iff.1 h
    obtain rfl := legible.newest storage u.id latest hgood (congrArg Prod.fst read)
    cases h
    refine ⟨legible.read read hgood, ?_⟩
    rw [WorkUnit.recovered_of_live unarchived, Status.recovered, if_pos active]

/-- A restart leaves the checkpoints alone, and each unit comes back by its record and its log. -/
theorem restore_recovers (recording : Storage.Recording good stored onFile)
    (h : (restore limits budget).run storage = (.ok s, storage')) (hs : good storage) :
    stored storage' = stored storage ∧ good storage' ∧
      ∀ r ∈ onFile storage, r.archived = false → ∃ u, s.graph.unit? r.id = some u ∧
        u.status = r.status.recovered (stored storage r.id) := by
  obtain ⟨us, vs, graph, made, w, w', load, recovered, read, _, rfl, rfl⟩ := restore_eq_ok h
  obtain rfl := recording.found storage us hs (congrArg Prod.fst load)
  have hw : good w ∧ stored w = stored storage := by
    have := recording.load storage hs
    rwa [load] at this
  obtain ⟨⟨hgood, same⟩, _, back⟩ :=
    run_mapM (P := fun v => good v ∧ stored v = stored storage)
      (Q := fun u v => v = u.recovered (stored storage))
      (fun _ _ _ _ hu hv => recover_stored recording.toLegible hu hv) recovered hw
  obtain ⟨hgood', same'⟩ := recording.flush w' graph.records hgood
  refine ⟨same'.trans same, hgood', ?_⟩
  intro r hr unarchived
  obtain ⟨u, hu, rfl⟩ := back r hr
  rw [WorkUnit.recovered_of_live unarchived] at hu
  have live := Graph.unit?_ofRecords read hu unarchived
  exact ⟨_, live, rfl⟩

theorem recover_run (reliable : Storage.Reliable good accepted stored onFile) {u : WorkUnit}
    (named : u.archived = false → u.status.isActive = true → accepted u.id)
    (hs : good storage ∧ stored storage = log) :
    ∃ v, (recover u).run storage = (.ok (u.recovered log), v) ∧ good v ∧ stored v = log := by
  obtain ⟨w, v, hrun⟩ : ∃ w v, (recover u).run storage = (.ok w, v) := by
    unfold recover
    split
    · exact ⟨_, _, rfl⟩
    · next rests =>
      obtain ⟨unarchived, active⟩ : u.archived = false ∧ u.status.isActive = true := by
        simpa using rests
      obtain ⟨latest, read⟩ := reliable.reads storage u.id hs.1 (named unarchived active)
      have hread : (ExceptT.mk (Storage.latest? u.id)).run storage = (.ok latest, _) :=
        Prod.ext read rfl
      rw [run_bind_ok hread]
      exact ⟨_, _, rfl⟩
  obtain ⟨hv, rfl⟩ := recover_stored reliable.toLegible hrun hs
  exact ⟨v, hrun, hv⟩

/-- A restart from the records of a graph succeeds. -/
theorem restore_run (reliable : Storage.Reliable good accepted stored onFile)
    (check : limits.check = .ok ()) (budget : Budget) {g : Graph} (built : g.Built)
    (named : ∀ id u, g.unit? id = some u → u.status.isActive = true → accepted id)
    (hs : good storage) (files : onFile storage = g.records) (same : stored storage = log) :
    ∃ v, (restore limits budget).run storage =
        (.ok ⟨limits, g.recovered log, budget, .empty, ∅, 1⟩, v) ∧
      good v ∧ stored v = log ∧ onFile v = (g.recovered log).records := by
  subst same
  obtain ⟨us, loads⟩ := reliable.loads storage hs
  obtain rfl : us = g.records := (reliable.found storage us hs loads).trans files
  have load : (ExceptT.mk Storage.load).run storage = (.ok g.records, (Storage.load storage).2) :=
    Prod.ext loads rfl
  have units : ∀ u ∈ g.records, u.archived = false → u.status.isActive = true →
      accepted u.id := by
    intro u hu unarchived
    rcases List.mem_append.1 hu with hu | hu
    · obtain ⟨id, live⟩ := Graph.mem_live_values.1 hu
      exact built.keyed.live id u live ▸ named id u live
    · obtain ⟨id, archived⟩ := IdMap.mem_values_iff.1 hu
      cases unarchived.symm.trans (built.marked.archived id u archived)
  obtain ⟨r, recovered, hr, same⟩ :=
    run_mapM_ok (P := fun v => good v ∧ stored v = stored storage)
      (fun u hu _ hv => recover_run reliable (units u hu) hv) (reliable.load storage hs)
  have read : Graph.ofRecords (g.records.map (·.recovered (stored storage))) =
      .ok (g.recovered (stored storage)) := by
    rw [built.map_recovered_records]
    exact (built.recovered _).ofRecords_records
  have made : new limits budget = .ok ⟨limits, .empty, budget, .empty, ∅, 1⟩ := by
    rw [new, check]
    rfl
  have hread : (liftM (Graph.ofRecords (g.records.map (·.recovered (stored storage)))) :
      ExceptT Refusal (StateM σ) Graph).run r = (.ok (g.recovered (stored storage)), r) := by
    rw [run_liftM, read]
  have hmade : (liftM (new limits budget) : ExceptT Refusal (StateM σ) Scheduler).run r =
      (.ok ⟨limits, .empty, budget, .empty, ∅, 1⟩, r) := by
    rw [run_liftM, made]
  refine ⟨(Storage.flush (g.recovered (stored storage)).records r).2, ?_, ?_, ?_, ?_⟩
  · rw [restore, run_bind_ok load, run_bind_ok recovered, run_bind_ok hread, run_bind_ok hmade,
      run_bind_ok (run_attempt ..)]
    rfl
  · exact (reliable.flush r _ hr).1
  · exact ((reliable.flush r _ hr).2).trans same
  · exact reliable.written r _ hr (reliable.flushes r _ hr)

end Scheduler

end BuildAdmission
