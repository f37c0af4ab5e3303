import BuildAdmission.Proofs.Session.Alteration
import BuildAdmission.Proofs.Session.Script
import BuildAdmission.Proofs.Session.Tickets

namespace BuildAdmission

namespace Status

/-- The life cycle of a unit. What has failed or is complete goes no further by itself. -/
inductive Edge : Status → Status → Prop
  | queued : Edge pending queued
  | admitted : Edge pending running
  | requeued : Edge checkpointed queued
  | resumed : Edge checkpointed running
  | blocked : Edge checkpointed pending
  | promoted : Edge queued running
  | demoted : Edge queued pending
  | completed : Edge running complete
  | suspended : Edge running checkpointed
  | retried : Edge running queued
  | failed : Edge running failed

end Status

/-! ### A unit over several events -/

namespace Event

variable {id k : UnitId} {e : Event} {es es' : List Event} {old new next : Option WorkUnit}
  {notes : List AuditAction} {u v : WorkUnit}

/-- What events make of a unit, one after the other. -/
inductive AlterAll (id : UnitId) : List Event → Option WorkUnit → Option WorkUnit → Prop
  | nil {unit} : AlterAll id [] unit unit
  | cons {e es old notes new last} (first : e.Alters id old notes new) (rest : AlterAll id es new last) :
      AlterAll id (e :: es) old last

/-- The event is about other units. A plan may be about the dependents of its whole as well. -/
def Elsewhere (id : UnitId) (e : Event) : Prop := id ∉ e.subjects ∧ ∀ plan, e ≠ .split plan

theorem Alters.eq_of_elsewhere (h : e.Alters id old notes new) (elsewhere : e.Elsewhere id) :
    new = old := by
  obtain ⟨apart, whole⟩ := elsewhere
  cases h with
  | spared => rfl
  | registered named => exact absurd (List.mem_singleton.2 named.symm) apart
  | replaced | parted | rewired => exact absurd rfl (whole _)
  | _ => exact absurd (List.mem_singleton.2 rfl) apart

theorem Alters.eq_of_expire (h : Alters id (.expire k) old notes new) : new = old := by
  cases h with
  | spared | expired => rfl

theorem AlterAll.eq_of_elsewhere (h : AlterAll id es old new)
    (elsewhere : ∀ e ∈ es, e.Elsewhere id) : new = old := by
  induction h with
  | nil => rfl
  | cons first rest ih =>
      obtain ⟨he, hes⟩ := List.forall_mem_cons.1 elsewhere
      exact (ih hes).trans (first.eq_of_elsewhere he)

theorem AlterAll.append_inv (h : AlterAll id (es ++ es') old new) :
    ∃ next, AlterAll id es old next ∧ AlterAll id es' next new := by
  induction es generalizing old with
  | nil => exact ⟨old, .nil, h⟩
  | cons e es ih =>
      cases h with
      | cons first rest =>
          obtain ⟨next, front, back⟩ := ih rest
          exact ⟨next, .cons first front, back⟩

theorem AlterAll.flushed (h : AlterAll id [e, .flush] old new) :
    ∃ notes, e.Alters id old notes new := by
  cases h with
  | cons first rest =>
      cases rest.eq_of_elsewhere (by simp [Elsewhere, subjects])
      exact ⟨_, first⟩

theorem AlterAll.prioritised {priority : Int32}
    (h : AlterAll id (.prioritise k priority :: es) (some u) new)
    (about : id ≠ k → ∀ e ∈ es, e.Elsewhere id) :
    new = some u ∨ id = k ∧ (u.status = .pending ∨ u.status = .checkpointed) ∧
      AlterAll k es (some { u with priority }) new := by
  cases h with
  | cons first rest =>
      cases first with
      | spared apart => exact .inl (rest.eq_of_elsewhere (about (by simpa [subjects] using apart)))
      | prioritised idle => exact .inr ⟨rfl, idle, rest⟩

/-- A unit that waited may run or be pending now. Any other unit is as it was. -/
inductive Filled (u : WorkUnit) : WorkUnit → Prop
  | same : Filled u u
  | taken {status : Status} (queued : u.status = .queued)
      (served : status = .running ∨ status = .pending) : Filled u { u with status }

theorem Filled.eq (h : Filled u v) (busy : u.status ≠ .queued) : v = u := by
  cases h with
  | same => rfl
  | taken queued => exact absurd queued busy

theorem Filled.trans {w : WorkUnit} (h : Filled u v) (h' : Filled v w) : Filled u w := by
  cases h with
  | same => exact h'
  | @taken status queued served =>
      have busy : status ≠ .queued := by rcases served with rfl | rfl <;> simp
      rw [h'.eq busy]
      exact .taken queued served

theorem AlterAll.filled (h : AlterAll id es (some u) new)
    (filled : ∀ e ∈ es, e.isPromotion = true ∨ e = .flush) : ∃ v, new = some v ∧ Filled u v := by
  generalize hold : some u = old at h
  induction h generalizing u with
  | nil => exact ⟨u, hold.symm, .same⟩
  | @cons e _ _ _ next _ first rest ih =>
      subst hold
      obtain ⟨he, hes⟩ := List.forall_mem_cons.1 filled
      have one : ∃ v, next = some v ∧ Filled u v := by
        cases first with
        | spared => exact ⟨u, rfl, .same⟩
        | promoted queued => exact ⟨_, rfl, .taken queued (.inl rfl)⟩
        | demoted queued _ => exact ⟨_, rfl, .taken queued (.inr rfl)⟩
        | _ => simp [isPromotion] at he
      obtain ⟨v, rfl, hv⟩ := one
      obtain ⟨w, hw, filled⟩ := ih hes rfl
      exact ⟨w, hw, hv.trans filled⟩

theorem AlterAll.filled_some (h : AlterAll id es (some u) (some v))
    (filled : ∀ e ∈ es, e.isPromotion = true ∨ e = .flush) : Filled u v := by
  obtain ⟨w, hw, became⟩ := h.filled filled
  cases hw
  exact became

/-- What becomes of a running unit that fails. It may wait, run or be pending again. -/
inductive Fails (u : WorkUnit) : WorkUnit → Prop
  | forGood : Fails u { u with status := .failed }
  | again {status : Status} (waits : status = .queued ∨ status = .running ∨ status = .pending) :
      Fails u { u with status, retryCount := u.retryCount + 1 }

theorem Fails.filled {w : WorkUnit} (h : Fails u v) (h' : Filled v w) : Fails u w := by
  cases h with
  | forGood => rw [h'.eq (by simp)]; exact .forGood
  | again waits =>
      cases h' with
      | same => exact .again waits
      | taken _ served => exact .again (.inr served)

theorem AlterAll.fails (h : AlterAll id (e :: es) (some u) new)
    (fails : e = .retry id ∨ e = .fail id)
    (filled : ∀ e ∈ es, e.isPromotion = true ∨ e = .flush) : ∃ v, new = some v ∧ Fails u v := by
  cases h with
  | @cons _ _ _ _ next _ first rest =>
      have one : ∃ v, next = some v ∧ Fails u v := by
        rcases fails with rfl | rfl
        · cases first with
          | spared apart => simp [subjects] at apart
          | retried => exact ⟨_, rfl, .again (.inl rfl)⟩
        · cases first with
          | spared apart => simp [subjects] at apart
          | failed => exact ⟨_, rfl, .forGood⟩
      obtain ⟨v, rfl, hv⟩ := one
      obtain ⟨w, hw, hfilled⟩ := rest.filled filled
      exact ⟨w, hw, hv.filled hfilled⟩

/-- Of the units that expire each fails in its turn. The others see only that slots are filled. -/
theorem AlterAll.expiries {ids : List UnitId} {reports : List TransitionReport}
    (h : AlterAll id es (some u) new) (expiries : Expiries ids reports es) (distinct : ids.Nodup)
    (run : id ∈ ids → u.status = .running) :
    ∃ v, new = some v ∧ if id ∈ ids then Fails u v else Filled u v := by
  induction expiries generalizing u with
  | nil =>
      cases h
      exact ⟨u, rfl, by simpa using Filled.same⟩
  | @cons k ids report reports first promotions es fails filled rest ih =>
      obtain ⟨hk, apart⟩ := List.nodup_cons.1 distinct
      cases h with
      | cons noted more =>
          cases noted.eq_of_expire
          have turns : first :: (promotions ++ .flush :: es) =
              (first :: (promotions ++ [.flush])) ++ es := by simp
          rw [turns] at more
          obtain ⟨next, turn, later⟩ := more.append_inv
          have filled : ∀ e ∈ promotions ++ [.flush], e.isPromotion = true ∨ e = .flush :=
            List.forall_mem_append.2 ⟨fun e he => .inl (filled e he), by simp⟩
          by_cases hid : id = k
          · subst hid
            obtain ⟨v, rfl, failed⟩ := turn.fails fails filled
            obtain ⟨w, hw, more⟩ := ih later apart fun hmem => absurd hmem hk
            rw [if_neg hk] at more
            exact ⟨w, hw, by simpa using failed.filled more⟩
          · have elsewhere : first.Elsewhere id := by
              rcases fails with rfl | rfl <;> simpa [Elsewhere, subjects] using hid
            cases turn with
            | cons other promoted =>
                cases other.eq_of_elsewhere elsewhere
                obtain ⟨v, rfl, taken⟩ := promoted.filled filled
                have same (hmem : id ∈ ids) : v = u :=
                  taken.eq (by rw [run (List.mem_cons_of_mem _ hmem)]; simp)
                obtain ⟨w, hw, more⟩ := ih later apart fun hmem =>
                  same hmem ▸ run (List.mem_cons_of_mem _ hmem)
                refine ⟨w, hw, ?_⟩
                by_cases hmem : id ∈ ids
                · rw [if_pos hmem, same hmem] at more
                  simpa [hmem] using more
                · rw [if_neg hmem] at more
                  simpa [hid, hmem] using taken.trans more

end Event

/-! ### A unit over a call -/

/-- The status in which the answer to a request for a slot leaves the unit. -/
def Answer.status? : Except Refusal Answer → Option Status
  | .ok (.launched (.blocked _)) => some .pending
  | .ok (.launched (.queued _)) => some .queued
  | .ok (.launched (.admitted _)) => some .running
  | _ => none

theorem Answer.status?_eq_pending {answer : Except Refusal Answer}
    (h : status? answer = some .pending) : ∃ unmet, answer = .ok (.launched (.blocked unmet)) := by
  unfold status? at h
  split at h
  · exact ⟨_, rfl⟩
  · cases h
  · cases h
  · cases h

theorem Answer.status?_eq_queued {answer : Except Refusal Answer}
    (h : status? answer = some .queued) :
    ∃ position, answer = .ok (.launched (.queued position)) := by
  unfold status? at h
  split at h
  · cases h
  · exact ⟨_, rfl⟩
  · cases h
  · cases h

theorem Answer.status?_cases (answer : Except Refusal Answer) : status? answer = none ∨
    status? answer = some .pending ∨ status? answer = some .queued ∨
    status? answer = some .running := by
  unfold status?
  split <;> simp

/-- The unit that the operation is about. -/
def Command.target? : Command → Option UnitId
  | addUnit u => some u.id
  | addEdge id _ | updateSize id _ | requestLaunch id _ _ | completed id | failed id _
  | suspended id _ | applyOutcome id _ _ | recordProgress id | resetFailed id | archive id => some id
  | split plan => some plan.whole
  | setThresholds _ | expireIdle _ | flush => none

theorem Command.Tells.target? {c : Command} {id : UnitId} {outcome : Outcome}
    (h : c.Tells id outcome) : c.target? = some id := by
  cases h with
  | reported => cases outcome <;> rfl
  | applied => rfl

namespace Call

variable {σ : Type}

/-- The call is about the unit, or finds that it was silent for too long. -/
def Targets (c : Call σ) (id : UnitId) : Prop :=
  c.command.target? = some id ∨
    ∃ now, c.command = .expireIdle now ∧ id ∈ Op.idleAt c.before.scheduler now

/-- The call has ended a run, so that its slot was free. -/
def FreesSlot (c : Call σ) : Prop := ∃ answer, c.answer = .ok answer ∧ answer.reports ≠ []

/-- The call is told that the unit's run failed, or finds that the unit was silent for too long. -/
def Fails (c : Call σ) (id : UnitId) : Prop :=
  (∃ reason, c.command.Tells id (.failed reason)) ∨
    ∃ now, c.command = .expireIdle now ∧ id ∈ Op.idleAt c.before.scheduler now

/-- What a call makes of a unit that stays live. -/
inductive Alters (c : Call σ) (id : UnitId) (u : WorkUnit) : WorkUnit → Prop
  | same : Alters c id u u
  | connected {target : UnitId} (asked : c.command = .addEdge id target) :
      Alters c id u { u with dependencies := u.dependencies.insert target }
  | resized {size : UInt64} (asked : c.command = .updateSize id size) :
      Alters c id u { u with declaredSize := size }
  | rewired {plan : SplitPlan} (asked : c.command = .split plan)
      (dependent : plan.whole ∈ u.dependencies) : Alters c id u (Graph.rewired plan id u)
  | requested {task : LaunchTask} {priority : Int32}
      (asked : c.command = .requestLaunch id task priority)
      (idle : u.status = .pending ∨ u.status = .checkpointed) : Alters c id u
        { u with priority, status := (Answer.status? c.answer).getD u.status }
  | reset (asked : c.command = .resetFailed id) (failed : u.status = .failed) :
      Alters c id u { u with status := .pending, retryCount := 0 }
  | completed (told : c.command.Tells id .completed) (runs : u.status = .running) :
      Alters c id u { u with status := .complete }
  | suspended {data : CheckpointData} (told : c.command.Tells id (.suspended data))
      (runs : u.status = .running) : Alters c id u { u with status := .checkpointed }
  | failed {v : WorkUnit} (told : c.Fails id) (runs : u.status = .running) (fails : Event.Fails u v) :
      Alters c id u v
  | filled {v : WorkUnit} (freed : c.FreesSlot) (filled : Event.Filled u v) : Alters c id u v

/-- The life cycle of a unit over a call. It goes along one edge at most, unless its run fails and
what then waits is served in the same call. -/
structure Moves (c : Call σ) (id : UnitId) (u v : WorkUnit) : Prop where
  path : v.status = u.status ∨ Status.Edge u.status v.status ∨
    (c.Fails id ∧ u.status = .running ∧ Status.Edge .queued v.status) ∨
    c.command = .resetFailed id ∧ u.status = .failed ∧ v.status = .pending
  retried : u.status = .running → v.status = .queued ∨ v.status = .pending →
    c.Fails id ∧ v.retryCount = u.retryCount + 1
  complete : u.status = .complete → v.status = .complete
  failed : u.status = .failed → v.status ≠ .failed →
    c.command = .resetFailed id ∧ v.status = .pending
  blocked : u.status = .checkpointed → v.status = .pending →
    ∃ unmet, c.answer = .ok (.launched (.blocked unmet))
  targeted : v.status ≠ u.status → c.Targets id ∨ u.status = .queued
  queued : u.status = .queued → v.status ≠ .queued →
    (v.status = .running ∨ v.status = .pending) ∧ c.FreesSlot

/-- What a call leaves as it is of a unit, apart from its status. -/
structure Frames (c : Call σ) (id : UnitId) (u v : WorkUnit) : Prop where
  same : v.id = u.id ∧ v.level = u.level ∧ v.archived = u.archived
  size : v.declaredSize ≠ u.declaredSize → c.command = .updateSize id v.declaredSize
  priority : v.priority ≠ u.priority → ∃ task, c.command = .requestLaunch id task v.priority
  dependencies : v.dependencies ≠ u.dependencies →
    (∃ target, c.command = .addEdge id target ∧
      v.dependencies = u.dependencies.insert target) ∨
    ∃ plan, c.command = .split plan ∧ plan.whole ∈ u.dependencies ∧
      v.dependencies = (Graph.rewired plan id u).dependencies
  retries : v.retryCount ≠ u.retryCount →
    (c.Fails id ∧ u.status = .running ∧ v.retryCount = u.retryCount + 1) ∨
    c.command = .resetFailed id ∧ v.retryCount = 0

variable {c : Call σ} {id : UnitId} {u v : WorkUnit}

theorem Fails.targets (h : c.Fails id) : c.Targets id :=
  h.imp (fun ⟨_, told⟩ => told.target?) fun silent => silent

theorem Alters.frames (h : c.Alters id u v) : c.Frames id u v := by
  cases h with
  | same => exact ⟨⟨rfl, rfl, rfl⟩, by simp, by simp, by simp, by simp⟩
  | connected asked =>
      exact ⟨⟨rfl, rfl, rfl⟩, by simp, by simp, fun _ => .inl ⟨_, asked, rfl⟩, by simp⟩
  | resized asked => exact ⟨⟨rfl, rfl, rfl⟩, fun _ => asked, by simp, by simp, by simp⟩
  | rewired asked dependent =>
      exact ⟨⟨rfl, rfl, rfl⟩, by simp [Graph.rewired], by simp [Graph.rewired],
        fun _ => .inr ⟨_, asked, dependent, rfl⟩, by simp [Graph.rewired]⟩
  | requested asked => exact ⟨⟨rfl, rfl, rfl⟩, by simp, fun _ => ⟨_, asked⟩, by simp, by simp⟩
  | reset asked => exact ⟨⟨rfl, rfl, rfl⟩, by simp, by simp, by simp, fun _ => .inr ⟨asked, rfl⟩⟩
  | completed | suspended => exact ⟨⟨rfl, rfl, rfl⟩, by simp, by simp, by simp, by simp⟩
  | failed told runs fails =>
      cases fails with
      | forGood => exact ⟨⟨rfl, rfl, rfl⟩, by simp, by simp, by simp, by simp⟩
      | again =>
          exact ⟨⟨rfl, rfl, rfl⟩, by simp, by simp, by simp, fun _ => .inl ⟨told, runs, rfl⟩⟩
  | filled freed filled =>
      cases filled <;> exact ⟨⟨rfl, rfl, rfl⟩, by simp, by simp, by simp, by simp⟩

theorem Moves.of_eq (same : v.status = u.status) : c.Moves id u v where
  path := .inl same
  retried runs away := by simp [same, runs] at away
  complete done := same.trans done
  failed failed changed := absurd (same.trans failed) changed
  blocked paused pending := by cases paused.symm.trans (same.symm.trans pending)
  targeted changed := absurd same changed
  queued waits changed := absurd (same.trans waits) changed

/-- A run that ends, other than by a failure. -/
theorem moves_of_ended (runs : u.status = .running) (told : c.Targets id)
    (ended : v.status = .complete ∨ v.status = .checkpointed) : c.Moves id u v where
  path := by
    rw [runs]
    rcases ended with done | paused
    · exact .inr (.inl (done ▸ .completed))
    · exact .inr (.inl (paused ▸ .suspended))
  retried _ away := by rcases ended with done | paused <;> simp [*] at away
  complete done := by cases runs.symm.trans done
  failed failed := by cases runs.symm.trans failed
  blocked paused := by cases runs.symm.trans paused
  targeted _ := .inl told
  queued waits := by cases runs.symm.trans waits

theorem moves_of_failed (runs : u.status = .running) (told : c.Fails id)
    (fails : Event.Fails u v) : c.Moves id u v where
  path := by
    rw [runs]
    cases fails with
    | forGood => exact .inr (.inl .failed)
    | again waits =>
        rcases waits with rfl | rfl | rfl
        · exact .inr (.inl .retried)
        · exact .inl rfl
        · exact .inr (.inr (.inl ⟨told, rfl, .demoted⟩))
  retried _ away := by
    cases fails with
    | forGood => simp at away
    | again => exact ⟨told, rfl⟩
  complete done := by cases runs.symm.trans done
  failed failed := by cases runs.symm.trans failed
  blocked paused := by cases runs.symm.trans paused
  targeted _ := .inl told.targets
  queued waits := by cases runs.symm.trans waits

/-- A request leaves a unit that was at rest as it is, or moves it by one edge. -/
theorem edge_of_idle {status : Status} (idle : status = .pending ∨ status = .checkpointed)
    (answer : Except Refusal Answer) : (Answer.status? answer).getD status = status ∨
      Status.Edge status ((Answer.status? answer).getD status) := by
  rcases Answer.status?_cases answer with same | pending | queued | running
  · exact .inl (by rw [same]; rfl)
  · rw [pending]
    rcases idle with rfl | rfl
    · exact .inl rfl
    · exact .inr .blocked
  · rw [queued]
    rcases idle with rfl | rfl
    · exact .inr .queued
    · exact .inr .requeued
  · rw [running]
    rcases idle with rfl | rfl
    · exact .inr .admitted
    · exact .inr .resumed

theorem Alters.moves (h : c.Alters id u v) : c.Moves id u v := by
  cases h with
  | same | connected | resized | rewired => exact .of_eq rfl
  | requested asked idle =>
      have told : c.Targets id := .inl (by rw [asked]; rfl)
      refine ⟨(edge_of_idle idle c.answer).imp_right .inl, ?_, ?_, ?_, ?_, fun _ => .inl told, ?_⟩
      · intro runs
        simp [runs] at idle
      · intro complete
        simp [complete] at idle
      · intro failed
        simp [failed] at idle
      · intro paused pending
        rcases Answer.status?_cases c.answer with same | blocked | queued | running
        · simp [same, paused] at pending
        · exact Answer.status?_eq_pending blocked
        · simp [queued] at pending
        · simp [running] at pending
      · intro queued
        simp [queued] at idle
  | reset asked failed =>
      have told : c.Targets id := .inl (by rw [asked]; rfl)
      exact ⟨.inr (.inr (.inr ⟨asked, failed, rfl⟩)), by simp [failed], by simp [failed],
        fun _ _ => ⟨asked, rfl⟩, by simp [failed], fun _ => .inl told, by simp [failed]⟩
  | completed told runs => exact moves_of_ended runs (.inl told.target?) (.inl rfl)
  | suspended told runs => exact moves_of_ended runs (.inl told.target?) (.inr rfl)
  | failed told runs fails => exact moves_of_failed runs told fails
  | filled freed filled =>
      cases filled with
      | same => exact .of_eq rfl
      | taken queued served =>
          refine ⟨.inr (.inl ?_), by simp [queued], by simp [queued], by simp [queued],
            by simp [queued], fun _ => .inr queued, fun _ _ => ⟨served, freed⟩⟩
          rw [queued]
          rcases served with rfl | rfl
          · exact .promoted
          · exact .demoted

end Call

namespace Session

open Event

variable {σ : Type} [Storage σ] {m n s t : Session σ} {es : List Event} {calls : List (Call σ)}
  {c : Command} {id : UnitId} {u v : WorkUnit}

theorem Trace.alterAll (h : Trace m es n) (kept : m.scheduler.Kept) (id : UnitId) :
    AlterAll id es (m.scheduler.graph.unit? id) (n.scheduler.graph.unit? id) := by
  induction h with
  | nil => exact .nil
  | cons step rest ih =>
      obtain ⟨_, alters, _⟩ := step.alters kept id
      exact .cons alters (ih (step.kept kept))

theorem alters_requested {task : LaunchTask} {priority : Int32} {k : UnitId}
    {outcome : Except Refusal LaunchOutcome} (launched : Launched t k task priority outcome es)
    (answered : (t.call (.requestLaunch k task priority)).answer = outcome.map .launched)
    (h : AlterAll id es (some u) (some v)) :
    (t.call (.requestLaunch k task priority)).Alters id u v := by
  have about (hne : id ≠ k) : ∀ e ∈ es.tail, e.Elsewhere id := by
    cases launched <;> simp [Elsewhere, subjects, hne]
  have untouched (same : some v = some u) :
      (t.call (.requestLaunch k task priority)).Alters id u v := by
    cases same
    exact .same
  have noted (idle : u.status = .pending ∨ u.status = .checkpointed) :
      (t.call (.requestLaunch k task priority)).Alters k u { u with
        priority, status := (Answer.status? (outcome.map .launched)).getD u.status } :=
    answered ▸ .requested rfl idle
  cases launched with
  | unknown | busy =>
      cases h
      exact .same
  | blocked | queued | admitted =>
      obtain same | ⟨rfl, idle, rest⟩ := h.prioritised about
      · exact untouched same
      · obtain ⟨_, one⟩ := rest.flushed
        cases one with
        | spared apart => simp [subjects] at apart
        | _ => exact noted idle
  | refused =>
      obtain same | ⟨rfl, idle, rest⟩ := h.prioritised about
      · exact untouched same
      · cases rest with
        | cons first done =>
            cases done
            cases first with
            | spared | refused => exact noted idle
  | unread =>
      obtain same | ⟨rfl, idle, rest⟩ := h.prioritised about
      · exact untouched same
      · cases rest.eq_of_elsewhere (by simp [Elsewhere, subjects])
        exact noted idle

theorem alters_ended {outcome : Outcome} {first : Event} {k : UnitId}
    (told : c.Tells k outcome) (ends : outcome.EndsBy k first)
    (filled : ∀ e ∈ es, e.isPromotion = true) (freed : (t.call c).FreesSlot)
    (h : AlterAll id (first :: (es ++ [.flush])) (some u) (some v)) : (t.call c).Alters id u v := by
  have filled : ∀ e ∈ es ++ [.flush], e.isPromotion = true ∨ e = .flush :=
    List.forall_mem_append.2 ⟨fun e he => .inl (filled e he), by simp⟩
  have fails {reason : String} (told : c.Tells k (.failed reason)) : (t.call c).Fails k :=
    .inl ⟨reason, told⟩
  cases h with
  | cons first rest =>
      cases ends with
      | completed =>
          cases first with
          | spared => exact .filled freed (rest.filled_some filled)
          | completed runs =>
              cases (rest.filled_some filled).eq (by simp)
              exact .completed told runs
      | suspended =>
          cases first with
          | spared => exact .filled freed (rest.filled_some filled)
          | suspended runs =>
              cases (rest.filled_some filled).eq (by simp)
              exact .suspended told runs
      | retried =>
          cases first with
          | spared => exact .filled freed (rest.filled_some filled)
          | retried runs =>
              exact .failed (fails told) runs ((Fails.again (.inl rfl)).filled (rest.filled_some filled))
      | failed =>
          cases first with
          | spared => exact .filled freed (rest.filled_some filled)
          | failed runs =>
              exact .failed (fails told) runs (Fails.forGood.filled (rest.filled_some filled))

omit [Storage σ] in
/-- A unit that was silent for too long was running, and its run fails. Any other unit gets a slot
at most. -/
theorem alters_silent {now : Nat} {reports : List TransitionReport} {next : Option WorkUnit}
    (kept : t.scheduler.Kept) (live : t.scheduler.graph.unit? id = some u)
    (expiries : Expiries (Op.idleAt t.scheduler now) reports es) (h : AlterAll id es (some u) next) :
    ∃ v, next = some v ∧ ((id ∈ Op.idleAt t.scheduler now ∧ u.status = .running ∧ Fails u v) ∨
      (id ∉ Op.idleAt t.scheduler now ∧ Filled u v)) := by
  have run (silent : id ∈ Op.idleAt t.scheduler now) : u.status = .running := by
    obtain ⟨w, hw, runs⟩ := kept.running_iff.1 (slot_of_idle silent)
    cases live.symm.trans hw
    exact runs
  obtain ⟨v, after, became⟩ := h.expiries expiries (nodup_idleAt _ now) run
  refine ⟨v, after, ?_⟩
  by_cases silent : id ∈ Op.idleAt t.scheduler now
  · rw [if_pos silent] at became
    exact .inl ⟨silent, run silent, became⟩
  · rw [if_neg silent] at became
    exact .inr ⟨silent, became⟩

theorem alters_expired {now : Nat} {reports : List TransitionReport} (kept : t.scheduler.Kept)
    (live : t.scheduler.graph.unit? id = some u)
    (expiries : Expiries (Op.idleAt t.scheduler now) reports es)
    (answered : (t.call (.expireIdle now)).answer = .ok (.expired reports))
    (h : AlterAll id es (some u) (some v)) : (t.call (.expireIdle now)).Alters id u v := by
  obtain ⟨w, hw, became⟩ := alters_silent kept live expiries h
  cases hw
  obtain ⟨silent, runs, fails⟩ | ⟨_, filled⟩ := became
  · exact .failed (.inr ⟨now, rfl, silent⟩) runs fails
  · generalize Op.idleAt t.scheduler now = ids at expiries
    cases expiries with
    | nil =>
        cases h
        exact .same
    | cons => exact .filled ⟨_, answered, by simp [Answer.reports]⟩ filled

/-- What a call does to a unit, by its events. -/
theorem call_alters (kept : t.scheduler.Kept) (c : Command)
    (live : t.scheduler.graph.unit? id = some u)
    (after : (t.call c).after.scheduler.graph.unit? id = some v) : (t.call c).Alters id u v := by
  obtain ⟨es, script, trace⟩ := call_script kept c
  have alters := trace.alterAll kept id
  rw [live, after] at alters
  have untouched (elsewhere : ∀ e ∈ es, e.Elsewhere id) : (t.call c).Alters id u v := by
    cases alters.eq_of_elsewhere elsewhere
    exact .same
  generalize answered : (t.call c).answer = answer at script
  cases script with
  | requested launched => exact alters_requested launched answered alters
  | ended told ends filled =>
      exact alters_ended told ends filled ⟨_, answered, by simp [Answer.reports]⟩ alters
  | expired expiries => exact alters_expired kept live expiries answered alters
  | registered =>
      obtain ⟨_, one⟩ := alters.flushed
      cases one with
      | spared => exact .same
  | connected =>
      obtain ⟨_, one⟩ := alters.flushed
      cases one with
      | spared => exact .same
      | connected => exact .connected rfl
  | resized =>
      obtain ⟨_, one⟩ := alters.flushed
      cases one with
      | spared => exact .same
      | resized => exact .resized rfl
  | reset =>
      obtain ⟨_, one⟩ := alters.flushed
      cases one with
      | spared => exact .same
      | reset failed => exact .reset rfl failed
  | archived withdrawn =>
      rcases withdrawn with rfl | rfl
      · obtain ⟨_, one⟩ := alters.flushed
        cases one with
        | spared => exact .same
      · cases alters with
        | cons first rest =>
            obtain ⟨_, one⟩ := rest.flushed
            cases one with
            | spared apart =>
                cases first with
                | spared => exact .same
                | withdrawn => simp [subjects] at apart
  | parted withdrawn =>
      rcases withdrawn with rfl | rfl
      · obtain ⟨_, one⟩ := alters.flushed
        cases one with
        | spared => exact .same
        | rewired _ dependent => exact .rewired rfl dependent
      · cases alters with
        | cons first rest =>
            obtain ⟨_, second⟩ := rest.flushed
            cases first with
            | spared =>
                cases second with
                | spared => exact .same
                | rewired _ dependent => exact .rewired rfl dependent
            | withdrawn =>
                cases second with
                | spared apart => simp [subjects] at apart
                | rewired apart => exact absurd rfl apart
  | unended told failed =>
      exact untouched (by rcases failed with rfl | rfl <;> simp [Elsewhere, subjects])
  | _ => exact untouched (by simp [Elsewhere, subjects])

/-- What a call makes of a unit that stays live is one of the known changes. The unit moves along its
life cycle, and only if the operation is about it or it waited for a slot that was freed. Apart from
that an operation changes of a unit what it is there to change, and of the dependents of a unit that
it replaces the dependencies. -/
theorem Run.life_cycle (run : Run s calls t) (opened : Opened s)
    (live : t.scheduler.graph.unit? id = some u)
    (after : (t.call c).after.scheduler.graph.unit? id = some v) :
    (t.call c).Alters id u v ∧ (t.call c).Moves id u v ∧ (t.call c).Frames id u v :=
  have alters := call_alters (run.kept opened) c live after
  ⟨alters, alters.moves, alters.frames⟩

/-- `lib` fails and gets its slot back at once. -/
theorem life_cycle_retried : ∃ (t : Session Vault) (u v : WorkUnit),
    t.scheduler.graph.unit? "lib" = some u ∧
    (t.call (.failed "lib" "crashed")).after.scheduler.graph.unit? "lib" = some v ∧
    (u.status, u.retryCount) = (.running, 0) ∧ (v.status, v.retryCount) = (.running, 1) ∧
    (t.call (.failed "lib" "crashed")).Alters "lib" u v ∧
    (t.call (.failed "lib" "crashed")).Moves "lib" u v ∧
    (t.call (.failed "lib" "crashed")).Frames "lib" u v := by
  have run := run_callAll narrow retriedCalls.dropLast
  have live : (narrow.callAll retriedCalls.dropLast).scheduler.graph.unit? "lib" =
      some ⟨"lib", .core, .running, 3, 1000, ∅, 0, false⟩ := by decide +kernel
  have after : ((narrow.callAll retriedCalls.dropLast).call
      (.failed "lib" "crashed")).after.scheduler.graph.unit? "lib" =
      some ⟨"lib", .core, .running, 3, 1000, ∅, 1, false⟩ := by decide +kernel
  exact ⟨_, _, _, live, after, rfl, rfl, run.life_cycle opened_narrow live after⟩

end Session

end BuildAdmission
