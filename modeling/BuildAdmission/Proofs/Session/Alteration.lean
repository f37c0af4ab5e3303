import BuildAdmission.Proofs.Graph.Built
import BuildAdmission.Proofs.Session.Coherence

namespace BuildAdmission

open AuditLog

namespace AuditLog

theorem actionsFor_append (es es' : List AuditEntry) (id : UnitId) :
    actionsFor (es ++ es') id = actionsFor es id ++ actionsFor es' id := by
  simp [actionsFor]

theorem actionsFor_snoc (es : List AuditEntry) (k id : UnitId) (action : AuditAction)
    (detail : Option String) : actionsFor (es ++ [⟨k, action, detail⟩]) id =
      actionsFor es id ++ if k = id then [action] else [] := by
  by_cases hk : k = id <;> simp [actionsFor, hk]

theorem actionsFor_map (ids : IdSet) (id : UnitId) (action : AuditAction) (detail : Option String) :
    actionsFor (ids.toList.map (⟨·, action, detail⟩)) id = if id ∈ ids then [action] else [] := by
  have held : ids.toList.filter (· = id) = if id ∈ ids then [id] else [] := by
    simp only [← beq_eq_decide, List.filter_beq]
    by_cases hid : id ∈ ids
    · rw [if_pos hid, List.count_eq_one_of_mem ids.nodup hid, List.replicate_one]
    · rw [if_neg hid, List.count_eq_zero_of_not_mem hid, List.replicate_zero]
  rw [actionsFor, List.filter_map, List.map_map]
  simp only [Function.comp_def, held]
  split <;> rfl

end AuditLog

namespace Event

/-- The units that the event alters, brings up or takes out, or notes in the trail. -/
def subjects : Event → List UnitId
  | register u => [u.id]
  | connect id _ | resize id _ | reset id | withdraw id | archive id | prioritise id _ | block id
  | refuse id | enqueue id _ | grant id _ | promote id _ | demote id | suspend id _ | complete id
  | retry id | fail id | expire id => [id]
  | split plan => plan.whole :: plan.partIds.toList
  | _ => []

/-- What an event makes of a unit, which is there or not, and what it notes about it. -/
inductive Alters (id : UnitId) :
    Event → Option WorkUnit → List AuditAction → Option WorkUnit → Prop
  | spared {e unit} (apart : id ∉ e.subjects) : Alters id e unit [] unit
  | registered {u} (named : u.id = id) (status : u.status = .pending ∨ u.status = .complete) :
      Alters id (.register u) none [.register] (some { u with archived := false })
  | connected {u target} : Alters id (.connect id target) (some u) []
      (some { u with dependencies := u.dependencies.insert target })
  | resized {u size} :
      Alters id (.resize id size) (some u) [] (some { u with declaredSize := size })
  | reset {u} (failed : u.status = .failed) : Alters id (.reset id) (some u) [.reset]
      (some { u with status := .pending, retryCount := 0 })
  | withdrawn {u} (queued : u.status = .queued) :
      Alters id (.withdraw id) (some u) [] (some { u with status := .pending })
  | archived {u} (idle : u.status ≠ .running) : Alters id (.archive id) (some u) [.archive] none
  | replaced {plan u} (whole : plan.whole = id) (idle : u.status ≠ .running) :
      Alters id (.split plan) (some u) [.split] none
  | parted {plan u whole} (part : u ∈ plan.parts) (named : u.id = id) :
      Alters id (.split plan) none [.register] (some (Graph.partOf whole u))
  | rewired {plan u} (apart : plan.whole ≠ id) (dependent : plan.whole ∈ u.dependencies) :
      Alters id (.split plan) (some u) [] (some (Graph.rewired plan id u))
  | prioritised {u priority} (idle : u.status = .pending ∨ u.status = .checkpointed) :
      Alters id (.prioritise id priority) (some u) [] (some { u with priority })
  | blocked {u} (idle : u.status = .pending ∨ u.status = .checkpointed) :
      Alters id (.block id) (some u) [.block] (some { u with status := .pending })
  | refused {u} (idle : u.status = .pending ∨ u.status = .checkpointed) :
      Alters id (.refuse id) (some u) [.splitRequired] (some u)
  | enqueued {u task} (idle : u.status = .pending ∨ u.status = .checkpointed) :
      Alters id (.enqueue id task) (some u) [.enqueue] (some { u with status := .queued })
  | granted {u a} (idle : u.status = .pending ∨ u.status = .checkpointed) :
      Alters id (.grant id a) (some u) [.admission] (some { u with status := .running })
  | promoted {u a} (queued : u.status = .queued) :
      Alters id (.promote id a) (some u) [.promote] (some { u with status := .running })
  | demoted {u action} (queued : u.status = .queued)
      (reason : action = .block ∨ action = .splitRequired) :
      Alters id (.demote id) (some u) [action] (some { u with status := .pending })
  | suspended {u data} (runs : u.status = .running) :
      Alters id (.suspend id data) (some u) [.suspend] (some { u with status := .checkpointed })
  | completed {u} (runs : u.status = .running) :
      Alters id (.complete id) (some u) [.complete] (some { u with status := .complete })
  | retried {u} (runs : u.status = .running)
      (counted : (u.retryCount + 1).toNat = u.retryCount.toNat + 1) :
      Alters id (.retry id) (some u) [.retry]
        (some { u with status := .queued, retryCount := u.retryCount + 1 })
  | failed {u} (runs : u.status = .running) :
      Alters id (.fail id) (some u) [.fail] (some { u with status := .failed })
  | expired {unit} : Alters id (.expire id) unit [.expire] unit

end Event

namespace Session

open BuildAdmission.Graph Event

variable {σ : Type} [Storage σ] {m n : Session σ} {e : Event} {g graph : Graph} {k : UnitId}
  {u v : WorkUnit} {notes : List AuditAction}

theorem alters_update {f : WorkUnit → WorkUnit} (live : g.unit? k = some u)
    (self : Alters k e (some u) notes (some (f u))) (subject : e.subjects = [k]) (id : UnitId) :
    Alters id e (g.unit? id) (if k = id then notes else []) ((g.update k f).unit? id) := by
  by_cases hk : k = id
  · subst hk
    rw [unit?_update_self live, live, if_pos rfl]
    exact self
  · rw [unit?_update, if_neg (Ne.symm hk), if_neg hk]
    apply Alters.spared
    simpa [subject] using Ne.symm hk

/-- An event that leaves the unit as it is. -/
theorem alters_same (self : Alters k e (g.unit? k) notes (g.unit? k)) (subject : e.subjects = [k])
    (id : UnitId) : Alters id e (g.unit? id) (if k = id then notes else []) (g.unit? id) := by
  by_cases hk : k = id
  · subst hk
    rw [if_pos rfl]
    exact self
  · rw [if_neg hk]
    apply Alters.spared
    simpa [subject] using Ne.symm hk

theorem alters_addUnit (status : u.status = .pending ∨ u.status = .complete)
    (added : g.addUnit u = .ok graph) (id : UnitId) :
    Alters id (.register u) (g.unit? id) (if u.id = id then [.register] else [])
      (graph.unit? id) := by
  obtain ⟨free, _, rfl⟩ := addUnit_eq_ok added
  by_cases hid : u.id = id
  · subst hid
    rw [(isTaken_eq_false_iff.1 free).1, unit?, IdMap.find?_insert, if_pos rfl, if_pos rfl]
    exact .registered rfl status
  · rw [unit?, unit?, IdMap.find?_insert, if_neg (Ne.symm hid), if_neg hid]
    apply Alters.spared
    simpa [subjects] using Ne.symm hid

theorem alters_archive (live : g.unit? k = some u) (idle : u.status ≠ .running)
    (archived : g.archive k = .ok (v, graph)) (id : UnitId) :
    Alters id (.archive k) (g.unit? id) (if k = id then [.archive] else []) (graph.unit? id) := by
  obtain ⟨_, _, _, _, rfl⟩ := archive_eq_ok archived
  by_cases hid : k = id
  · subst hid
    rw [live, unit?, IdMap.find?_erase, if_pos rfl, if_pos rfl]
    exact .archived idle
  · rw [unit?, unit?, IdMap.find?_erase, if_neg (Ne.symm hid), if_neg hid]
    apply Alters.spared
    simpa [subjects] using Ne.symm hid

theorem alters_split {plan : SplitPlan} {ids : List UnitId} (keyed : g.Keyed)
    (live : g.unit? plan.whole = some u) (idle : u.status ≠ .running)
    (accepted : g.split plan = .ok (ids, graph)) (id : UnitId) :
    Alters id (.split plan) (g.unit? id)
      ((if plan.whole = id then [.split] else []) ++ if id ∈ plan.partIds then [.register] else [])
      (graph.unit? id) := by
  have old := not_mem_partIds_of_live accepted live
  by_cases part : id ∈ plan.partIds
  · obtain ⟨v, hv, named, made⟩ := unit?_split_part keyed accepted live part
    have absent : g.unit? id = none := by
      cases hid : g.unit? id with
      | none => rfl
      | some w => exact absurd part (not_mem_partIds_of_live accepted hid)
    have whole : plan.whole ≠ id := fun same => old (same ▸ part)
    rw [absent, made, if_neg whole, if_pos part]
    exact .parted hv named
  · rw [unit?_split accepted part, if_neg part, List.append_nil]
    by_cases whole : plan.whole = id
    · subst whole
      rw [if_pos rfl, if_pos rfl, live]
      exact .replaced rfl idle
    · rw [if_neg (Ne.symm whole), if_neg whole]
      split
      · next dependent =>
        obtain ⟨v, hv, hdep⟩ := dependsOn_iff.1 ((mem_dependentsOf keyed).1 dependent)
        rw [hv]
        exact .rewired whole hdep
      · apply Alters.spared
        simpa [subjects] using ⟨Ne.symm whole, part⟩

omit [Storage σ] in
theorem foldl_log_trail (ids : List UnitId) (action : AuditAction) (detail : Option String)
    (m : Session σ) : (ids.foldl (fun m id => m.log id action detail) m).trail =
      m.trail ++ ids.map (⟨·, action, detail⟩) := by
  induction ids generalizing m with
  | nil => simp
  | cons id ids ih =>
      rw [List.foldl_cons, ih, log, List.append_assoc]
      rfl

theorem actionsFor_silent (es : List AuditEntry) (k id : UnitId) :
    actionsFor es id = actionsFor es id ++ if k = id then [] else [] := by simp

/-- All that an event does to a unit, and what the trail says about it. -/
theorem Step.alters (h : Step m e n) (kept : m.scheduler.Kept) (id : UnitId) :
    ∃ notes, e.Alters id (m.scheduler.graph.unit? id) notes (n.scheduler.graph.unit? id) ∧
      actionsFor n.trail id = actionsFor m.trail id ++ notes := by
  cases h with
  | register status added => exact ⟨_, alters_addUnit status added id, actionsFor_snoc ..⟩
  | connect added =>
      obtain ⟨u, live, _, rfl⟩ := addEdge_eq_ok added
      exact ⟨_, alters_update live .connected rfl id, actionsFor_silent ..⟩
  | resize live => exact ⟨_, alters_update live .resized rfl id, actionsFor_silent ..⟩
  | reset live failed => exact ⟨_, alters_update live (.reset failed) rfl id, actionsFor_snoc ..⟩
  | withdraw live idle found =>
      obtain ⟨rfl, taken, _⟩ := AdmissionQueue.remove?_entries found
      obtain ⟨v, live', queued, _⟩ := kept.taken (taken.mem_iff.2 List.mem_cons_self)
      exact ⟨_, alters_update live' (.withdrawn queued) rfl id, actionsFor_silent ..⟩
  | reinstate live idle found =>
      obtain ⟨rfl, taken, _⟩ := AdmissionQueue.remove?_entries found
      have back := kept.setStatus_back (taken.mem_iff.2 List.mem_cons_self)
      simp only [change_scheduler, back]
      exact ⟨[], .spared (by simp [subjects]), (List.append_nil _).symm⟩
  | archive live idle free archived =>
      exact ⟨_, alters_archive live idle archived id, actionsFor_snoc ..⟩
  | split live idle free accepted =>
      obtain ⟨_, _, _, _, _, rfl, _⟩ := split_eq_ok accepted
      rw [foldl_log_scheduler]
      refine ⟨_, alters_split kept.keyed live idle accepted id, ?_⟩
      rw [foldl_log_trail, log, actionsFor_append, actionsFor_snoc, actionsFor_map, List.append_assoc]
      rfl
  | prioritise live idle =>
      exact ⟨_, alters_update live (.prioritised idle) rfl id, actionsFor_silent ..⟩
  | block live idle gate => exact ⟨_, alters_update live (.blocked idle) rfl id, actionsFor_snoc ..⟩
  | refuse live idle gate =>
      exact ⟨_, alters_same (live ▸ .refused idle) rfl id, actionsFor_snoc ..⟩
  | enqueue live idle gate full behind =>
      exact ⟨_, alters_update live (.enqueued idle) rfl id, actionsFor_snoc ..⟩
  | grant live idle gate room read =>
      exact ⟨_, alters_update live (.granted idle) rfl id, actionsFor_snoc ..⟩
  | promote room pop live queued gate read =>
      exact ⟨_, alters_update live (.promoted queued) rfl id, actionsFor_snoc ..⟩
  | demote room pop live queued gate =>
      have reason := gate.imp (fun ⟨_, _, action, _⟩ => action) fun ⟨_, _, action⟩ => action
      exact ⟨_, alters_update live (.demoted queued reason) rfl id, actionsFor_snoc ..⟩
  | suspend live status slot read saved =>
      exact ⟨_, alters_update live (.suspended status) rfl id, actionsFor_snoc ..⟩
  | complete live status slot =>
      exact ⟨_, alters_update live (.completed status) rfl id, actionsFor_snoc ..⟩
  | @retry _ u _ _ live status slot tries =>
      have counted : (u.retryCount + 1).toNat = u.retryCount.toNat + 1 := by
        have below := UInt32.lt_iff_toNat_lt.1 tries
        have bound := m.scheduler.limits.maxRetries.toNat_lt
        rw [UInt32.toNat_add, UInt32.toNat_one]
        omega
      have again := alters_update (e := .retry _)
        (f := (fun v => { v with status := .queued }) ∘
          (fun v => { v with retryCount := u.retryCount + 1 }) ∘
            fun v => { v with status := .queued }) live (.retried status counted) rfl id
      rw [← update_update, ← update_update] at again
      exact ⟨_, again, actionsFor_snoc ..⟩
  | fail live status slot tries =>
      exact ⟨_, alters_update live (.failed status) rfl id, actionsFor_snoc ..⟩
  | expire => exact ⟨_, alters_same .expired rfl id, actionsFor_snoc ..⟩
  | retune | drop | stall | progress | unread | unsaved | flush =>
      exact ⟨[], .spared (by simp [subjects]), (List.append_nil _).symm⟩

end Session

end BuildAdmission
