import BuildAdmission.Proofs.Session.Coherence
import BuildAdmission.Proofs.Storage

namespace BuildAdmission

namespace Session

variable {σ : Type} [Storage σ] {good : σ → Prop} {m n s t : Session σ} {e : Event}
  {es : List Event} {calls : List (Call σ)} {c : Command}

open Storage

/-- The records that would be loaded are those of the units. -/
def Mirrored (s : Session σ) : Prop := (Storage.load s.storage).1 = .ok s.scheduler.graph.records

/-- Nothing happened to the units or to their records on record. -/
structure Same (m n : Session σ) : Prop where
  graph : n.scheduler.graph = m.scheduler.graph
  loaded : (Storage.load n.storage).1 = (Storage.load m.storage).1

theorem Same.trans (h : Same s m) (h' : Same m n) : Same s n :=
  ⟨h'.graph.trans h.graph, h'.loaded.trans h.loaded⟩

theorem Same.mirrored (h : Same m n) (hm : m.Mirrored) : n.Mirrored := by
  rw [Mirrored, h.graph, h.loaded]
  exact hm

theorem Step.storage (faithful : Faithful good) (h : Step m e n) (hm : good m.storage) :
    good n.storage ∧ (e = .flush ∨ (Storage.load n.storage).1 = (Storage.load m.storage).1) := by
  have touch := h.touch
  generalize n.storage = v at touch
  cases touch with
  | untouched => exact ⟨hm, .inr rfl⟩
  | read read => exact (faithful.read read hm).imp_right .inr
  | saved read saved =>
      obtain ⟨hr, loaded⟩ := faithful.read read hm
      obtain ⟨hs, loaded'⟩ := faithful.saved saved hr
      exact ⟨hs, .inr (loaded'.trans loaded)⟩
  | unsaved read saved =>
      obtain ⟨hr, loaded⟩ := faithful.read read hm
      obtain ⟨hs, loaded'⟩ := faithful.saved saved hr
      exact ⟨hs, .inr (loaded'.trans loaded)⟩
  | deleted => exact (faithful.deleteAll _ _ hm).imp_right .inr
  | flushed => exact ⟨(faithful.flush _ _ hm).2.1, .inl rfl⟩

theorem Step.mirrored_flush (faithful : Faithful good) (h : Step m .flush n) (hm : good m.storage) :
    n.Mirrored := by
  cases h with
  | flush => exact (faithful.flush _ _ hm).2.2

theorem Step.quiet (h : Step m e n) (kept : m.scheduler.Kept) (quiet : e.isQuiet = true) :
    n.scheduler.graph = m.scheduler.graph := by
  cases h with
  | reinstate live idle found =>
      obtain ⟨rfl, taken, _⟩ := AdmissionQueue.remove?_entries found
      have back := kept.setStatus_back (taken.mem_iff.2 List.mem_cons_self)
      simp only [change_scheduler, back]
  | retune | refuse | drop | stall | expire | progress | unread | unsaved => rfl
  | _ => cases quiet

/-- A flush among settled events brings the records up to date. Without one there is nothing to
bring up to date. -/
theorem Trace.settled (faithful : Faithful good) (h : Trace m es n) (kept : m.scheduler.Kept)
    (hm : good m.storage) (settled : Event.Settled es) :
    good n.storage ∧ (.flush ∈ es → n.Mirrored) ∧ (.flush ∉ es → Same m n) := by
  induction h with
  | nil => exact ⟨hm, by simp, fun _ => ⟨rfl, rfl⟩⟩
  | @cons m n n' e es step rest ih =>
      obtain ⟨hn, touched⟩ := step.storage faithful hm
      obtain ⟨hn', up, still⟩ := ih (step.kept kept) hn settled.2
      refine ⟨hn', ?_, ?_⟩
      -- The last flush decides: after it nothing changes any more, by the second half.
      · intro hflush
        by_cases again : .flush ∈ es
        · exact up again
        · obtain rfl : .flush = e := (List.mem_cons.1 hflush).resolve_right again
          exact (still again).mirrored (step.mirrored_flush faithful hm)
      · intro hflush
        obtain ⟨hne, again⟩ := not_or.1 (mt List.mem_cons.2 hflush)
        have quiet := settled.1.resolve_right hflush
        exact Same.trans ⟨step.quiet kept quiet, touched.resolve_left (Ne.symm hne)⟩ (still again)

end Session

/-- The calls that change the priority of a unit and write nothing: a request for a slot that is
refused for the unit's size, or that fails to read the unit's checkpoints. -/
def Call.DropsPriority {σ : Type} (c : Call σ) : Prop :=
  ∃ id task priority u, c.command = .requestLaunch id task priority ∧
    c.before.scheduler.graph.unit? id = some u ∧ u.priority ≠ priority ∧
    ((∃ decision, c.answer = .ok (.launched (.splitRequired decision))) ∨
      (u.status = .pending ∨ u.status = .checkpointed) ∧ ∃ refusal, c.answer = .error refusal)

namespace Session

variable {σ : Type} [Storage σ] {good : σ → Prop} {m n s t : Session σ} {e : Event}
  {es : List Event} {calls : List (Call σ)} {c : Command}

open Storage

/-- What a call leaves behind when it only sets a priority. -/
structure Reprioritised (m n : Session σ) (id : UnitId) (priority : Int32) : Prop where
  graph : n.scheduler.graph = m.scheduler.graph.update id fun u => { u with priority }
  loaded : (Storage.load n.storage).1 = (Storage.load m.storage).1

theorem Trace.reprioritised {id : UnitId} {priority : Int32} (faithful : Faithful good)
    (h : Trace m [.prioritise id priority, e] n) (kept : m.scheduler.Kept) (hm : good m.storage)
    (quiet : e.isQuiet = true) : good n.storage ∧ Reprioritised m n id priority := by
  cases h with
  | cons step rest =>
      have kept' := step.kept kept
      obtain ⟨hgood, touched⟩ := step.storage faithful hm
      obtain ⟨hgood', _, still⟩ := rest.settled faithful kept' hgood ⟨.inl quiet, trivial⟩
      have same := still (by rintro (_ | ⟨_, ⟨⟩⟩); cases quiet)
      cases step with
      | prioritise live idle => exact ⟨hgood', same.graph, same.loaded⟩

/-- A call brings the records up to date, or leaves the units and the records alone, or sets a
priority without writing it down. -/
theorem call_mirrors (faithful : Faithful good) (kept : t.scheduler.Kept) (ht : good t.storage)
    (c : Command) :
    good (t.call c).after.storage ∧ ((t.call c).after.Mirrored ∨ Same t (t.call c).after ∨
      ∃ id priority u, t.scheduler.graph.unit? id = some u ∧
        Reprioritised t (t.call c).after id priority ∧
        (u.priority ≠ priority → (t.call c).DropsPriority)) := by
  by_cases request : c.IsRequest
  · cases c with
    | requestLaunch id task priority =>
        obtain ⟨answer, es, launched, answered, trace⟩ := perform_requestLaunch id task priority t
        have flushed {d d' : Event} (h : Trace t [d, d', .flush]
            (t.call (.requestLaunch id task priority)).after) :=
          h.settled faithful kept ht (Event.settled_snoc_flush [d, d'])
        cases launched with
        | unknown absent =>
            obtain ⟨hgood, _, still⟩ := trace.settled faithful kept ht trivial
            exact ⟨hgood, .inr (.inl (still (by simp)))⟩
        | busy live busy =>
            obtain ⟨hgood, _, still⟩ := trace.settled faithful kept ht trivial
            exact ⟨hgood, .inr (.inl (still (by simp)))⟩
        | blocked => exact (flushed trace).imp_right fun h => .inl (h.1 (by simp))
        | refused live =>
            obtain ⟨hgood, changed⟩ := trace.reprioritised faithful kept ht rfl
            refine ⟨hgood, .inr (.inr ⟨id, priority, _, live, changed, fun other => ?_⟩)⟩
            exact ⟨id, task, priority, _, rfl, live, other, .inl ⟨_, answered⟩⟩
        | queued => exact (flushed trace).imp_right fun h => .inl (h.1 (by simp))
        | unread live idle =>
            obtain ⟨hgood, changed⟩ := trace.reprioritised faithful kept ht rfl
            refine ⟨hgood, .inr (.inr ⟨id, priority, _, live, changed, fun other => ?_⟩)⟩
            exact ⟨id, task, priority, _, rfl, live, other, .inr ⟨idle, _, answered⟩⟩
        | admitted asked => exact (flushed trace).imp_right fun h => .inl (h.1 (by simp))
    | _ => cases request
  · obtain ⟨es, account⟩ := perform_account c request t
    obtain ⟨hgood, up, still⟩ := account.trace.settled faithful kept ht account.settled
    refine ⟨hgood, ?_⟩
    by_cases hflush : .flush ∈ es
    · exact .inl (up hflush)
    · exact .inr (.inl (still hflush))

theorem reprioritised_of_drops (faithful : Faithful good) (kept : t.scheduler.Kept)
    (ht : good t.storage) (h : (t.call c).DropsPriority) :
    ∃ id priority u, t.scheduler.graph.unit? id = some u ∧ u.priority ≠ priority ∧
      Reprioritised t (t.call c).after id priority := by
  obtain ⟨id, task, priority, u, rfl, live, other, answered⟩ := h
  obtain ⟨answer, es, launched, same, trace⟩ := perform_requestLaunch id task priority t
  refine ⟨id, priority, u, live, other, ?_⟩
  rw [same] at answered
  cases launched with
  | unknown absent => cases absent.symm.trans live
  | busy live' busy =>
      cases live'.symm.trans live
      rcases answered with ⟨_, answered⟩ | ⟨idle, _⟩
      · cases answered
      · exact absurd idle (not_or.2 busy)
  | refused => exact (trace.reprioritised faithful kept ht rfl).2
  | unread => exact (trace.reprioritised faithful kept ht rfl).2
  | _ => simp [Except.map] at answered

/-! ### Runs -/

/-- A session that begins with its records in order: a new one over an empty registry, or one that
was restored. -/
inductive OpenedOver (good : σ → Prop) : Session σ → Prop
  | new {thresholds margin hardLimit budget limits scheduler storage trail clock date}
      (valid : Budget.new thresholds margin hardLimit = .ok budget)
      (made : Scheduler.new limits budget = .ok scheduler) (start : good storage)
      (empty : (Storage.load storage).1 = .ok []) :
      OpenedOver good ⟨scheduler, storage, trail, clock, date⟩
  | restored {thresholds margin hardLimit budget limits scheduler found storage trail clock date}
      (valid : Budget.new thresholds margin hardLimit = .ok budget)
      (made : (Scheduler.restore limits budget).run found = (.ok scheduler, storage))
      (start : good found) : OpenedOver good ⟨scheduler, storage, trail, clock, date⟩

theorem OpenedOver.opened (h : OpenedOver good s) : Opened s := by
  cases h with
  | new valid made start empty => exact .new valid made
  | restored valid made start => exact .restored valid made

theorem recover_good (faithful : Faithful good) {u : WorkUnit} {v v' : σ}
    {result : Except Refusal WorkUnit} (h : (Scheduler.recover u).run v = (result, v'))
    (hv : good v) : good v' := by
  unfold Scheduler.recover at h
  split at h
  · cases h
    exact hv
  · rw [Op.run_bind] at h
    have hrun : (ExceptT.mk (Storage.latest? u.id)).run v = Storage.latest? u.id v := rfl
    rw [hrun] at h
    rcases read : Storage.latest? u.id v with ⟨refusal | latest, r⟩
    · rw [read] at h
      cases h
      exact (faithful.read read hv).1
    · rw [read] at h
      cases h
      exact (faithful.read read hv).1

theorem recoverAll_good (faithful : Faithful good) {us vs : List WorkUnit} {v v' : σ}
    (h : (us.mapM Scheduler.recover).run v = (.ok vs, v')) (hv : good v) : good v' :=
  (Op.run_mapM (Q := fun _ _ => True)
    (fun _ _ _ _ hu hr => ⟨recover_good faithful hu hr, trivial⟩) h hv).1

theorem OpenedOver.mirrored (faithful : Faithful good) (h : OpenedOver good s) :
    good s.storage ∧ s.Mirrored := by
  cases h with
  | new valid made start empty =>
      refine ⟨start, ?_⟩
      cases Scheduler.new_eq_ok made
      exact empty
  | restored valid made start =>
      obtain ⟨us, vs, graph, made, r, r', hload, hrecover, _, _, rfl, rfl⟩ :=
        Scheduler.restore_eq_ok made
      have hr : good r := by
        have := faithful.load _ start
        rwa [hload] at this
      have hr' := recoverAll_good faithful hrecover hr
      obtain ⟨_, hgood, loaded⟩ := faithful.flush r' graph.records hr'
      exact ⟨hgood, loaded⟩

/-- The records that would be loaded are those of the units in all but the priorities. -/
def MirroredButPriority (s : Session σ) : Prop :=
  ∃ us, (Storage.load s.storage).1 = .ok us ∧
    us.map (fun u => { u with priority := 0 }) =
      s.scheduler.graph.records.map fun u => { u with priority := 0 }

theorem Mirrored.butPriority (h : s.Mirrored) : s.MirroredButPriority := ⟨_, h, rfl⟩

theorem Reprioritised.butPriority {id : UnitId} {priority : Int32}
    (h : Reprioritised m n id priority) (hm : m.MirroredButPriority) : n.MirroredButPriority := by
  obtain ⟨us, loaded, same⟩ := hm
  refine ⟨us, h.loaded.trans loaded, ?_⟩
  rw [h.graph, same]
  exact (Graph.map_records_update (f := fun u => { u with priority }) fun _ => rfl).symm

theorem Reprioritised.not_mirrored {id : UnitId} {priority : Int32} {u : WorkUnit}
    (h : Reprioritised m n id priority) (kept : m.scheduler.Kept)
    (live : m.scheduler.graph.unit? id = some u) (other : u.priority ≠ priority) (hm : m.Mirrored) :
    ¬ n.Mirrored := by
  intro hn
  have same := Except.ok.inj (hn.symm.trans (h.loaded.trans hm))
  rw [h.graph] at same
  have unchanged := Graph.eq_of_records_update (f := fun u => { u with priority }) kept.keyed
    (fun _ => rfl) live same
  exact other (congrArg WorkUnit.priority unchanged).symm

/-- Where the records were those of the units before a call, they are so after it unless the call
drops a priority. -/
theorem call_mirrored_iff (faithful : Faithful good) (kept : t.scheduler.Kept) (ht : good t.storage)
    (h : t.Mirrored) (c : Command) : (t.call c).after.Mirrored ↔ ¬ (t.call c).DropsPriority := by
  constructor
  · intro mirrored drops
    obtain ⟨id, priority, u, live, other, changed⟩ := reprioritised_of_drops faithful kept ht drops
    exact changed.not_mirrored kept live other h mirrored
  · intro drops
    obtain ⟨_, mirrored | same | ⟨id, priority, u, live, changed, other⟩⟩ :=
      call_mirrors faithful kept ht c
    · exact mirrored
    · exact same.mirrored h
    · have equal : u.priority = priority := not_not.1 (mt other drops)
      have still := Graph.update_eq_self (f := fun u => { u with priority }) fun v hv => by
        cases live.symm.trans hv
        rw [← equal]
      exact Same.mirrored ⟨changed.graph.trans still, changed.loaded⟩ h

theorem call_butPriority (faithful : Faithful good) (kept : t.scheduler.Kept) (ht : good t.storage)
    (h : t.MirroredButPriority) (c : Command) : (t.call c).after.MirroredButPriority := by
  obtain ⟨_, mirrored | same | ⟨id, priority, u, live, changed, _⟩⟩ := call_mirrors faithful kept ht c
  · exact mirrored.butPriority
  · obtain ⟨us, loaded, hus⟩ := h
    exact ⟨us, same.loaded.trans loaded, by rw [same.graph, hus]⟩
  · exact changed.butPriority h

/-- Over a registry whose flushes do not fail, the records that would be loaded are those of the
units after every call, in all but the priorities. They are so in every field exactly as long as no
call has dropped a priority. -/
theorem Run.records_mirrored (faithful : Faithful good) (opened : OpenedOver good s)
    (run : Run s calls t) :
    (∀ c ∈ calls, c.after.MirroredButPriority) ∧
      ((∀ c ∈ calls, c.after.Mirrored) ↔ ∀ c ∈ calls, ¬ c.DropsPriority) := by
  have start := opened.mirrored faithful
  have whole : good t.storage ∧ t.MirroredButPriority ∧ (∀ c ∈ calls, c.after.MirroredButPriority) ∧
      ((∀ c ∈ calls, c.after.Mirrored) ↔ ∀ c ∈ calls, ¬ c.DropsPriority) ∧
      ((∀ c ∈ calls, c.after.Mirrored) → t.Mirrored) := by
    induction run with
    | nil => exact ⟨start.1, start.2.butPriority, by simp, by simp, fun _ => start.2⟩
    | wait rest clock date ih => exact ih
    | @call calls t rest c ih =>
        obtain ⟨ht, but, all, iff, last⟩ := ih
        have kept := rest.kept opened.opened
        have after := call_butPriority faithful kept ht but c
        refine ⟨(call_mirrors faithful kept ht c).1, after, ?_, ?_, ?_⟩
        · simpa [or_imp, forall_and] using ⟨all, after⟩
        · have step := fun h => call_mirrored_iff faithful kept ht (last h) c
          simp only [List.forall_mem_append, List.forall_mem_singleton]
          constructor
          · rintro ⟨earlier, mirrored⟩
            exact ⟨iff.1 earlier, (step earlier).1 mirrored⟩
          · rintro ⟨earlier, drops⟩
            exact ⟨iff.2 earlier, (step (iff.2 earlier)).2 drops⟩
        · intro h
          exact h _ (List.mem_append_right _ List.mem_cons_self)
  exact ⟨whole.2.2.1, whole.2.2.2.1⟩

theorem records_mirrored_two_calls :
    let s := (fresh.call (.addUnit ⟨"lib", .core, .pending, 0, 1000, ∅, 0, false⟩)).after
    (s.call (.requestLaunch "lib" ⟨"build", 1000000⟩ 7)).after.MirroredButPriority := by
  have opened : OpenedOver (fun v : Vault => ∃ checkpoints registry, v = .memory checkpoints registry)
      fresh := .new (by decide : Budget.new .standard Budget.standardMargin Budget.standardHardLimit =
        .ok ⟨.standard, Budget.standardMargin, Budget.standardHardLimit⟩)
      (by decide : Scheduler.new .standard fresh.scheduler.budget = .ok fresh.scheduler)
      ⟨_, _, rfl⟩ rfl
  have run := ((Run.nil (s := fresh)).call
    (.addUnit ⟨"lib", .core, .pending, 0, 1000, ∅, 0, false⟩)).call
    (.requestLaunch "lib" ⟨"build", 1000000⟩ 7)
  exact (Run.records_mirrored Vault.faithful_memory opened run).1 _ (by simp)

/-- A unit that is refused for its size keeps its new priority in memory only. -/
theorem not_mirrored_refused :
    let s := (fresh.call (.addUnit ⟨"lib", .core, .pending, 0, 1000, ∅, 0, false⟩)).after
    s.Mirrored ∧ ¬ (s.call (.requestLaunch "lib" ⟨"build", 1000000⟩ 7)).after.Mirrored := by
  refine ⟨rfl, ?_⟩
  intro h
  exact absurd (Except.ok.inj h) (by decide +kernel)

end Session

end BuildAdmission
