import BuildAdmission.Proofs.Session.Admission
import BuildAdmission.Proofs.Session.Alteration
import BuildAdmission.Proofs.Session.Script
import BuildAdmission.Scheduler.Report

namespace BuildAdmission

/-- The dependencies of every running unit are live and complete. -/
def Graph.Supported (g : Graph) : Prop :=
  ∀ id u, g.unit? id = some u → u.status = .running →
    ∀ d ∈ u.dependencies, ∃ v, g.unit? d = some v ∧ v.status = .complete

/-- Whether the event can take from a running unit what it was admitted on: it comes to depend on a
unit that is not complete, or parts that are not complete replace one that is. -/
def Event.undercuts (s : Scheduler) : Event → Bool
  | connect source target => s.hasStatus source .running && !s.graph.isComplete target
  | split plan => s.graph.isComplete plan.whole
  | _ => false

/-- Whether the call adds such an edge, or carries out such a plan. -/
def Call.undercuts {σ : Type} (c : Call σ) : Bool :=
  match c.command with
  | .addEdge source target => (Event.connect source target).undercuts c.before.scheduler
  | .split plan => c.answer.isOk && (Event.split plan).undercuts c.before.scheduler
  | _ => false

namespace Session

open BuildAdmission.Graph Event

variable {σ : Type} [Storage σ] {m n s t : Session σ} {e : Event} {es : List Event}
  {calls : List (Call σ)} {c : Command} {d id : UnitId} {u v : WorkUnit}

/-- A complete unit stays so unless it is taken out. -/
theorem Step.stays_complete (h : Step m e n) (kept : m.scheduler.Kept)
    (careful : e.undercuts m.scheduler = false) (stays : e ≠ .archive d)
    (done : ∃ v, m.scheduler.graph.unit? d = some v ∧ v.status = .complete) :
    ∃ v, n.scheduler.graph.unit? d = some v ∧ v.status = .complete := by
  obtain ⟨v, live, complete⟩ := done
  obtain ⟨_, alters, _⟩ := h.alters kept d
  rw [live] at alters
  generalize n.scheduler.graph.unit? d = after at alters
  cases alters with
  | spared | refused | expired => exact ⟨v, rfl, complete⟩
  | connected | resized | rewired => exact ⟨_, rfl, complete⟩
  | archived => exact absurd rfl stays
  | @replaced plan _ whole _ =>
      have undercut : (Event.split plan).undercuts m.scheduler = true :=
        isComplete_iff.2 ⟨v, whole ▸ live, complete⟩
      cases careful.symm.trans undercut
  | reset other | withdrawn other | promoted other | demoted other _ | suspended other
  | completed other | retried other _ | failed other => cases complete.symm.trans other
  | prioritised idle | blocked idle | enqueued idle | granted idle =>
      rcases idle with idle | idle <;> cases complete.symm.trans idle

/-- A unit that another depends on is not archived. -/
theorem Step.ne_archive (h : Step m e n) (keyed : m.scheduler.graph.Keyed)
    (live : m.scheduler.graph.unit? id = some u) (hd : d ∈ u.dependencies) : e ≠ .archive d := by
  rintro rfl
  cases h with
  | archive _ _ _ archived =>
      obtain ⟨_, _, free, _⟩ := archive_eq_ok archived
      have needed := (mem_dependentsOf keyed).2 (dependsOn_iff.2 ⟨u, live, hd⟩)
      rw [free] at needed
      cases needed

theorem Step.met_grant {a : Admission} (h : Step m (.grant id a) n)
    (live : m.scheduler.graph.unit? id = some u) : m.scheduler.graph.unmetOf u = [] := by
  cases h with
  | grant live' _ gate _ _ =>
      cases live.symm.trans live'
      exact (Scheduler.gate_eq_passed_iff.1 gate).1

theorem Step.met_promote {a : Admission} (h : Step m (.promote id a) n)
    (live : m.scheduler.graph.unit? id = some u) : m.scheduler.graph.unmetOf u = [] := by
  cases h with
  | promote _ _ live' _ gate _ =>
      cases live.symm.trans live'
      exact (Scheduler.gate_eq_passed_iff.1 gate).1

theorem Step.supported (h : Step m e n) (kept : m.scheduler.Kept)
    (careful : e.undercuts m.scheduler = false) (hm : m.scheduler.graph.Supported) :
    n.scheduler.graph.Supported := by
  intro id v live runs d hd
  -- What the unit depended on before, it still has.
  have still {u : WorkUnit} (before : m.scheduler.graph.unit? id = some u)
      (runs : u.status = .running) (hd : d ∈ u.dependencies) :=
    h.stays_complete kept careful (h.ne_archive kept.keyed before hd) (hm id u before runs d hd)
  have met {u : WorkUnit} (before : m.scheduler.graph.unit? id = some u)
      (met : m.scheduler.graph.unmetOf u = []) (hd : d ∈ u.dependencies) :=
    h.stays_complete kept careful (h.ne_archive kept.keyed before hd)
      (unmetOf_eq_nil_iff.1 met d hd)
  obtain ⟨_, alters, _⟩ := h.alters kept id
  rw [live] at alters
  generalize before : m.scheduler.graph.unit? id = old at alters
  cases alters with
  | spared | refused | expired => exact still before runs hd
  | registered named status => rcases status with status | status <;> cases status.symm.trans runs
  | @connected u target =>
      rcases IdSet.mem_insert.1 hd with rfl | hd
      · have source : u.status = .running := runs
        have complete : m.scheduler.graph.isComplete d = true := by
          simpa [undercuts, Scheduler.hasStatus, before, source] using careful
        exact h.stays_complete kept careful (by simp) (isComplete_iff.1 complete)
      · exact still before runs hd
  | resized => exact still before runs hd
  | rewired apart dependent =>
      have undercut := isComplete_iff.2 (hm id _ before runs _ dependent)
      cases careful.symm.trans undercut
  | prioritised idle => rcases idle with idle | idle <;> cases idle.symm.trans runs
  | granted => exact met before (h.met_grant before) hd
  | promoted => exact met before (h.met_promote before) hd
  | _ => cases runs

theorem Trace.supported (h : Trace m es n) (kept : m.scheduler.Kept)
    (careful : ∀ e ∈ es, ∀ s, e.undercuts s = false) (hm : m.scheduler.graph.Supported) :
    n.scheduler.graph.Supported := by
  induction h with
  | nil => exact hm
  | cons step rest ih =>
      obtain ⟨he, hes⟩ := List.forall_mem_cons.1 careful
      exact ih (step.kept kept) hes (step.supported kept (he _) hm)

theorem Trace.supported_cons (h : Trace m (e :: es) n) (kept : m.scheduler.Kept)
    (first : e.undercuts m.scheduler = false) (careful : ∀ e ∈ es, ∀ s, e.undercuts s = false)
    (hm : m.scheduler.graph.Supported) : n.scheduler.graph.Supported := by
  cases h with
  | cons step rest => exact rest.supported (step.kept kept) careful (step.supported kept first hm)

/-- A unit that was withdrawn is pending. -/
theorem Step.incomplete_withdraw (h : Step m (.withdraw id) n) (kept : m.scheduler.Kept) :
    n.scheduler.graph.isComplete id = false := by
  obtain ⟨_, alters, _⟩ := h.alters kept id
  rw [isComplete]
  generalize m.scheduler.graph.unit? id = old at alters
  generalize n.scheduler.graph.unit? id = new at alters
  cases alters with
  | spared apart => simp [subjects] at apart
  | withdrawn => simp

omit [Storage σ] in
theorem undercuts_of_isPromotion (h : e.isPromotion = true) (s : Scheduler) :
    e.undercuts s = false := by
  cases e <;> first | rfl | cases h

theorem call_supported (kept : t.scheduler.Kept) (careful : (t.call c).undercuts = false)
    (ht : t.scheduler.graph.Supported) : (t.call c).after.scheduler.graph.Supported := by
  obtain ⟨es, script, trace⟩ := call_script kept c
  generalize answered : (t.call c).answer = answer at script
  cases script with
  | connected => exact trace.supported_cons kept careful (by simp [undercuts]) ht
  | @parted plan es answer withdrawn =>
      have careful : (Event.split plan).undercuts t.scheduler = false := by
        rw [Call.undercuts, answered] at careful
        exact careful
      rcases withdrawn with rfl | rfl
      · exact trace.supported_cons kept careful (by simp [undercuts]) ht
      · cases trace with
        | cons taken rest =>
            exact rest.supported_cons (taken.kept kept) (taken.incomplete_withdraw kept)
              (by simp [undercuts]) (taken.supported kept rfl ht)
  | requested launched =>
      refine trace.supported kept ?_ ht
      cases launched <;> simp [undercuts]
  | ended told ends filled =>
      refine trace.supported kept (List.forall_mem_cons.2 ⟨?_, List.forall_mem_append.2 ⟨?_, ?_⟩⟩) ht
      · cases ends <;> simp [undercuts]
      · exact fun e he => undercuts_of_isPromotion (filled e he)
      · simp [undercuts]
  | unended told failed =>
      refine trace.supported kept ?_ ht
      rcases failed with rfl | rfl <;> simp [undercuts]
  | expired expiries =>
      refine trace.supported kept ?_ ht
      exact expiries.forall_events (fun _ _ => rfl) (fun _ => ⟨fun _ => rfl, fun _ => rfl⟩)
        (fun e => undercuts_of_isPromotion) fun _ => rfl
  | archived withdrawn =>
      refine trace.supported kept ?_ ht
      rcases withdrawn with rfl | rfl <;> simp [undercuts]
  | _ => exact trace.supported kept (by simp [undercuts]) ht

theorem Opened.supported (opened : Opened s) : s.scheduler.graph.Supported := by
  intro id u live runs
  obtain ⟨r, slot⟩ := opened.started.kept.running_iff.2 ⟨u, live, runs⟩
  rw [opened.started.running] at slot
  cases slot

/-- As long as no running unit comes to depend on one that is not complete, and no complete unit is
replaced by its parts, every dependency of every running unit is live and complete. -/
theorem Run.running_supported (run : Run s calls t) (opened : Opened s)
    (careful : ∀ c ∈ calls, c.undercuts = false) : t.scheduler.graph.Supported := by
  induction run with
  | nil => exact opened.supported
  | wait rest clock date ih => exact ih careful
  | call rest c ih =>
      obtain ⟨earlier, last⟩ := List.forall_mem_append.1 careful
      exact call_supported (rest.kept opened) (last _ (List.mem_singleton.2 rfl)) (ih earlier)

/-- `lib` runs on top of `base`, and comes to depend on `tool` as well, which is complete. -/
def toppedCalls : List Command :=
  [.addUnit ⟨"base", .core, .complete, 0, 1000, ∅, 0, false⟩,
    .addUnit ⟨"tool", .core, .complete, 0, 1000, ∅, 0, false⟩,
    .addUnit ⟨"lib", .core, .pending, 0, 1000, .ofList ["base"], 0, false⟩,
    .requestLaunch "lib" ⟨"build", 1000⟩ 3, .addEdge "lib" "tool"]

theorem running_supported_topped : ∃ t : Session Vault, Run fresh (fresh.callsOf toppedCalls) t ∧
    (∀ c ∈ fresh.callsOf toppedCalls, c.undercuts = false) ∧
    (t.scheduler.graph.unit? "lib").map (fun u => (u.status, u.dependencies.toList)) =
      some (.running, ["base", "tool"]) ∧
    t.scheduler.graph.Supported := by
  have run := run_callAll fresh toppedCalls
  have careful : ∀ c ∈ fresh.callsOf toppedCalls, c.undercuts = false := by decide +kernel
  exact ⟨_, run, careful, by decide +kernel, run.running_supported opened_fresh careful⟩

end Session

end BuildAdmission
