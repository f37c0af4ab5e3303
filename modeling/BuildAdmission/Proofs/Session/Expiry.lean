import BuildAdmission.Proofs.Session.Frame

namespace BuildAdmission

open AuditLog

/-- Whether the action is noted when a run fails. -/
def AuditAction.isFailure : AuditAction → Bool
  | retry | fail => true
  | _ => false

namespace Event

variable {id : UnitId} {e : Event} {es : List Event} {old new : Option WorkUnit}
  {notes : List AuditAction} {ids : List UnitId} {reports : List TransitionReport}

/-- The unit whose run fails. -/
def fails? : Event → Option UnitId
  | retry id | fail id => some id
  | _ => none

theorem fails?_of_isPromotion (h : e.isPromotion = true) : e.fails? = none := by
  cases e <;> first | rfl | cases h

theorem Alters.failures (h : e.Alters id old notes new) :
    notes.countP (·.isFailure) = e.fails?.toList.count id := by
  cases h with
  | spared apart =>
      refine (List.count_eq_zero_of_not_mem fun fails => apart ?_).symm
      cases e <;> simp_all [fails?, subjects]
  | demoted _ reason => rcases reason with rfl | rfl <;> rfl
  | retried | failed => simp [fails?, AuditAction.isFailure]
  | _ => rfl

end Event

namespace Expiries

variable {id : UnitId} {es : List Event} {ids : List UnitId} {reports : List TransitionReport}

/-- Each unit fails once, in its turn. -/
theorem fails (h : Expiries ids reports es) : es.filterMap Event.fails? = ids := by
  induction h with
  | nil => rfl
  | @cons id _ _ _ first promotions _ failed filled _ ih =>
      have turn : first.fails? = some id := by rcases failed with rfl | rfl <;> rfl
      have quiet : promotions.filterMap Event.fails? = [] :=
        List.filterMap_eq_nil_iff.2 fun e he => Event.fails?_of_isPromotion (filled e he)
      rw [List.filterMap_cons_none rfl, List.filterMap_cons_some turn, List.filterMap_append, quiet,
        List.nil_append, List.filterMap_cons_none rfl, ih]

theorem spares (h : Expiries ids reports es) (apart : id ∉ ids) : ∀ e ∈ es, e.run? ≠ some id := by
  induction h with
  | nil => simp
  | @cons k _ _ _ first promotions _ failed filled _ ih =>
      obtain ⟨hk, apart⟩ := not_or.1 (List.mem_cons.not.1 apart)
      simp only [List.forall_mem_cons, List.forall_mem_append]
      refine ⟨nofun, ?_, fun e he => ?_, nofun, ih apart⟩
      · rcases failed with rfl | rfl <;> exact fun same => hk (Option.some.inj same).symm
      · rw [Session.run?_of_isPromotion (filled e he)]
        exact nofun

theorem quiet (h : Expiries ids reports es) : ∀ e ∈ es, ∀ k, e ≠ .progress k := by
  refine h.forall_events (by simp) (by simp) ?_ (by simp)
  rintro _ promotion k rfl
  cases promotion

end Expiries

namespace Session

open BuildAdmission.Event

variable {σ : Type} [Storage σ] {m n s t : Session σ} {e : Event} {es : List Event} {id : UnitId}
  {calls : List (Call σ)} {r : Running} {now : Nat} {reports : List TransitionReport}

/-- Every failure is noted once. -/
theorem Trace.failures (h : Trace m es n) (kept : m.scheduler.Kept) (id : UnitId) :
    ∃ notes, actionsFor n.trail id = actionsFor m.trail id ++ notes ∧
      notes.countP (·.isFailure) = (es.filterMap fails?).count id := by
  induction h with
  | nil => exact ⟨[], by simp⟩
  | @cons _ _ _ e es step rest ih =>
      obtain ⟨first, alters, noted⟩ := step.alters kept id
      obtain ⟨later, noted', others⟩ := ih (step.kept kept)
      refine ⟨first ++ later, by rw [noted', noted, List.append_assoc], ?_⟩
      rw [List.countP_append, alters.failures, others]
      cases fails : e.fails? <;> simp [fails, List.count_cons, Nat.add_comm]

/-- A slot is held already or it is given by an admission. -/
theorem Step.slot_given (h : Step m e n) (keyed : m.scheduler.graph.Keyed)
    (quiet : ∀ k, e ≠ .progress k) (slot : n.scheduler.running.find? id = some r) :
    m.scheduler.running.find? id = some r ∨
      ∃ a ∈ e.admission?, a.unit.id = id ∧ a.task = r.task ∧ a.ticket = r.ticket := by
  have inserted {k : UnitId} {r' : Running} {a : Admission} (made : e.admission? = some a)
      (given : a.unit.id = k ∧ a.task = r'.task ∧ a.ticket = r'.ticket)
      (slot : (m.scheduler.running.insert k r').find? id = some r) :
      m.scheduler.running.find? id = some r ∨
        ∃ a ∈ e.admission?, a.unit.id = id ∧ a.task = r.task ∧ a.ticket = r.ticket := by
    rw [IdMap.find?_insert] at slot
    split at slot
    · next same =>
      cases slot
      exact .inr ⟨a, made, same ▸ given⟩
    · exact .inl slot
  have erased {k : UnitId} (slot : (m.scheduler.running.erase k).find? id = some r) :
      m.scheduler.running.find? id = some r := by
    rw [IdMap.find?_erase] at slot
    split at slot
    · cases slot
    · exact slot
  cases h with
  | split live idle free accepted =>
      rw [foldl_log_scheduler] at slot
      exact .inl slot
  | grant live idle gate room read => exact inserted rfl ⟨(keyed.live _ _ live :), rfl, rfl⟩ slot
  | promote room pop live queued gate read =>
      exact inserted rfl ⟨(keyed.live _ _ live :), rfl, rfl⟩ slot
  | suspend | complete | retry | fail => exact .inl (erased slot)
  | progress => exact absurd rfl (quiet _)
  | _ => exact .inl slot

theorem Trace.slot_given (h : Trace m es n) (kept : m.scheduler.Kept)
    (quiet : ∀ e ∈ es, ∀ k, e ≠ .progress k) (slot : n.scheduler.running.find? id = some r) :
    m.scheduler.running.find? id = some r ∨
      ∃ a ∈ Event.admissions es, a.unit.id = id ∧ a.task = r.task ∧ a.ticket = r.ticket := by
  induction h with
  | nil => exact .inl slot
  | cons step rest ih =>
      obtain ⟨first, later⟩ := List.forall_mem_cons.1 quiet
      rw [Event.admissions_cons]
      obtain slot | ⟨a, ha, given⟩ := ih (step.kept kept) later slot
      · obtain slot | ⟨a, ha, given⟩ := step.slot_given kept.keyed first slot
        · exact .inl slot
        · exact .inr ⟨a, List.mem_append_left _ (Option.mem_toList.2 ha), given⟩
      · exact .inr ⟨a, List.mem_append_right _ ha, given⟩

/-! ### The units that were silent for too long -/

omit [Storage σ] in
theorem mem_idleAt {s : Scheduler} : id ∈ Op.idleAt s now ↔
    ∃ r, s.running.find? id = some r ∧ s.limits.idleTimeout.nanos < now - r.lastProgress := by
  simp [Op.idleAt, IdMap.find?_eq_some_iff]

omit [Storage σ] in
theorem ascending_idleAt (s : Scheduler) (now : Nat) : (Op.idleAt s now).Pairwise (· < ·) :=
  List.pairwise_map.2 (s.running.ascending.sublist List.filter_sublist)

/-- What becomes of the units and their slots when those that were silent for too long expire. -/
structure Expires (s : Session σ) (now : Nat) (reports : List TransitionReport) (t : Session σ) :
    Prop where
  ascending : (reports.map (·.unitId)).Pairwise (· < ·)
  /-- The reports are of the units that were silent for longer than the limit. -/
  silent : ∀ id, id ∈ reports.map (·.unitId) ↔ ∃ r, s.scheduler.running.find? id = some r ∧
    s.scheduler.limits.idleTimeout.nanos < now - r.lastProgress
  /-- Each of them fails once, and no other unit fails. -/
  once : ∀ id, ∃ notes, actionsFor t.trail id = actionsFor s.trail id ++ notes ∧
    notes.countP (·.isFailure) = if id ∈ reports.map (·.unitId) then 1 else 0
  fails : ∀ id ∈ reports.map (·.unitId), ∃ u v, s.scheduler.graph.unit? id = some u ∧
    u.status = .running ∧ t.scheduler.graph.unit? id = some v ∧ Fails u v
  /-- The other runs go on. -/
  goesOn : ∀ id r, s.scheduler.running.find? id = some r → id ∉ reports.map (·.unitId) →
    t.scheduler.running.find? id = some r ∧
      ∃ u, s.scheduler.graph.unit? id = some u ∧ u.status = .running ∧
        t.scheduler.graph.unit? id = some u
  /-- Every ticket that was handed out is that of one admission in one report. -/
  tickets : (reports.flatMap (·.promoted)).map (·.ticket) =
    List.range' s.scheduler.nextTicket (t.scheduler.nextTicket - s.scheduler.nextTicket)
  promoted : ∀ id r, t.scheduler.running.find? id = some r →
    s.scheduler.running.find? id = some r ∨ ∃ a ∈ reports.flatMap (·.promoted),
      a.unit.id = id ∧ a.task = r.task ∧ a.ticket = r.ticket

theorem expires (kept : s.scheduler.Kept) (now : Nat) : ∃ reports,
    (s.call (.expireIdle now)).answer = .ok (.expired reports) ∧
      Expires s now reports (s.call (.expireIdle now)).after := by
  obtain ⟨reports, es, n, names, expiries, trace, given, hrun⟩ := expireIdle_sure kept now
  have performed : (Command.expireIdle now).perform.run s = (.ok (.expired reports), n) :=
    Op.run_map_eq_ok_iff.2 ⟨reports, hrun, rfl⟩
  have numbered := trace.numbered
  rw [← given] at numbered
  have became {id : UnitId} {u : WorkUnit} (live : s.scheduler.graph.unit? id = some u) :=
    alters_silent kept live expiries (live ▸ trace.alterAll kept id)
  rw [call, performed]
  refine ⟨reports, rfl, ?_⟩
  constructor
  case ascending =>
    rw [names]
    exact ascending_idleAt _ now
  case silent =>
    rw [names]
    exact fun id => mem_idleAt
  case once =>
    intro id
    obtain ⟨notes, noted, failures⟩ := trace.failures kept id
    refine ⟨notes, noted, ?_⟩
    rw [failures, expiries.fails, names, (nodup_idleAt _ now).count]
  case fails =>
    rw [names]
    intro id hid
    obtain ⟨u, live, runs⟩ := kept.running_iff.1 (slot_of_idle hid)
    obtain ⟨v, after, ⟨_, _, fails⟩ | ⟨apart, _⟩⟩ := became live
    · exact ⟨u, v, live, runs, after, fails⟩
    · exact absurd hid apart
  case goesOn =>
    rw [names]
    intro id r slot apart
    obtain ⟨u, live, runs⟩ := kept.running_iff.1 ⟨r, slot⟩
    obtain ⟨v, after, ⟨hid, _, _⟩ | ⟨_, filled⟩⟩ := became live
    · exact absurd hid apart
    · cases filled.eq (by simp [runs])
      exact ⟨trace.slot kept (expiries.spares apart) slot, u, live, runs, after⟩
  case tickets => rw [numbered.tickets, numbered.next, Nat.add_sub_cancel_left]
  case promoted =>
    rw [given]
    exact fun id r => trace.slot_given kept expiries.quiet

/-- Whatever the storage does, exactly the units that were silent for too long fail, each of them
once, also if it gets the slot that another one has left. -/
theorem Run.expires_silent (run : Run s calls t) (opened : Opened s) (now : Nat) : ∃ reports,
    (t.call (.expireIdle now)).answer = .ok (.expired reports) ∧
      Expires t now reports (t.call (.expireIdle now)).after :=
  expires (run.kept opened) now

/-- A session in which a run is idle after twenty nanoseconds. -/
def brisk : Session Vault := fresh.change fun s => { s with limits := ⟨3, 2, ⟨20⟩⟩ }

/-- `lib` and `app` get slots, and `tool` gets one ten nanoseconds later. -/
def drowsyCalls : List Command :=
  [.addUnit ⟨"lib", .core, .pending, 0, 1000, ∅, 0, false⟩,
    .addUnit ⟨"app", .core, .pending, 0, 1000, ∅, 0, false⟩,
    .addUnit ⟨"tool", .core, .pending, 0, 1000, ∅, 0, false⟩,
    .requestLaunch "lib" ⟨"build", 1000⟩ 3, .requestLaunch "app" ⟨"build", 1000⟩ 3]

def drowsy : Session Vault :=
  ({ brisk.callAll drowsyCalls with clock := 10, date := .epoch }.call
    (.requestLaunch "tool" ⟨"build", 1000⟩ 3)).after

/-- Each of the two that fail gets its slot back before the next one fails. -/
theorem expires_silent_drowsy : ∃ (calls : List (Call Vault)) (reports : List TransitionReport),
    Run brisk calls drowsy ∧ drowsy.scheduler.running.keys = ["app", "lib", "tool"] ∧
    (drowsy.call (.expireIdle 25)).answer = .ok (.expired reports) ∧
    reports.map (fun report => (report.unitId, report.promoted.map (·.unit.id))) =
      [("app", ["app"]), ("lib", ["lib"])] ∧
    Expires drowsy 25 reports (drowsy.call (.expireIdle 25)).after := by
  have run : Run brisk _ drowsy := ((run_callAll brisk drowsyCalls).wait 10 .epoch).call
    (.requestLaunch "tool" ⟨"build", 1000⟩ 3)
  obtain ⟨reports, answered, expires⟩ := run.expires_silent (opened_limited rfl) 25
  have told : ((drowsy.call (.expireIdle 25)).answer.map fun answer =>
      answer.reports.map fun report => (report.unitId, report.promoted.map (·.unit.id))) =
      .ok [("app", ["app"]), ("lib", ["lib"])] := by decide +kernel
  rw [answered] at told
  have running : drowsy.scheduler.running.keys = ["app", "lib", "tool"] := by decide +kernel
  exact ⟨_, reports, run, running, answered, Except.ok.inj told, expires⟩

end Session

end BuildAdmission
