import BuildAdmission.Proofs.Session.Durability
import BuildAdmission.Proofs.Session.Outage
import BuildAdmission.Proofs.Session.Progress
import BuildAdmission.Proofs.Session.Refill
import BuildAdmission.Proofs.Session.Script

namespace BuildAdmission

variable {σ : Type} [Storage σ] {good : σ → Prop} {back : Checkpoint → Option Checkpoint}
  {stored : σ → UnitId → List Checkpoint}

theorem Noted.logging (names : List StorageCall) (h : Storage.Logging good back stored) :
    Storage.Logging (fun v : Noted names σ => good v.inner) back (fun v => stored v.inner) where
  latest? v := h.latest? v.inner
  save v := h.save v.inner
  deleteAll v := h.deleteAll v.inner
  flush v := h.flush v.inner
  load v := h.load v.inner
  newest v := h.newest v.inner
  retimed := h.retimed
  added v := h.added v.inner
  emptied v := h.emptied v.inner

/-- The calls about checkpoints. -/
def StorageCall.forCheckpoints : List StorageCall := [.loadLatest, .save, .deleteAll]

/-- During the call a checkpoint could not be read, saved or deleted. -/
def Call.Hampered (c : Call σ) : Prop := c.fails StorageCall.forCheckpoints = true

/-- A checkpoint without its date. -/
def Checkpoint.undated (c : Checkpoint) : Checkpoint := { c with createdAt := .epoch }

namespace Outcome

/-- Where a unit rests that does not fail. -/
def rest? : Outcome → Option Status
  | completed => some .complete
  | failed _ => none
  | suspended _ => some .checkpointed

/-- The outcome with another time spent. -/
def rounded (round : Duration → Duration) : Outcome → Outcome
  | suspended data => suspended (data.rounded round)
  | x => x

/-- The log of a unit after the outcome. -/
def logAfter (id : UnitId) (log : List Checkpoint) (date : Timestamp) : Outcome → List Checkpoint
  | completed => []
  | failed _ => log
  | suspended data => log ++ [.next log id data date]

theorem undated_logAfter (x : Outcome) (id : UnitId) (log : List Checkpoint)
    (date date' : Timestamp) : (x.logAfter id log date').map Checkpoint.undated =
      (x.logAfter id log date).map Checkpoint.undated := by
  cases x with
  | completed | failed => rfl
  | suspended data =>
      rw [logAfter, logAfter, List.map_append, List.map_append]
      rfl

end Outcome

namespace Scheduler

variable {s n n' t t' : Scheduler} {f g g' h h' : UnitId → List Checkpoint} {a b : UnitId}
  {x y : Outcome} {p q : Status} {given given' later later' : List Admission}

/-- The run of a unit is over. The unit rests, its log has changed and the free slots have been
filled, while the other units run on. -/
structure HandsOver (s : Scheduler) (f : UnitId → List Checkpoint) (date : Timestamp) (id : UnitId)
    (x : Outcome) (p : Status) (given : List Admission) (t : Scheduler)
    (g : UnitId → List Checkpoint) : Prop where
  refill : ∃ served, (s.release id p).Refill g served given t
  logs : g = Function.update f id (x.logAfter id (f id) date)
  running : ∀ k u, k ≠ id → s.graph.unit? k = some u → u.status = .running →
    t.graph.unit? k = some u

theorem HandsOver.elsewhere {date : Timestamp} (first : s.HandsOver f date a x p given n g)
    {k : UnitId} (other : k ≠ a) : g k = f k := by
  rw [first.logs, Function.update_of_ne other]

/-- The log of the unit changes in the same way at any time. -/
theorem HandsOver.undated {date date' : Timestamp} (now : s.HandsOver f date a x p given n g)
    (after : n'.HandsOver g' date' a x p given' t' h') (same : g' a = f a) :
    (h' a).map (·.undated) = (g a).map (·.undated) := by
  rw [now.logs, after.logs, Function.update_self, Function.update_self, same]
  exact x.undated_logAfter ..

/-- Whichever of two units hands over its slot first, the same launches get the first slots and the
same launches those that follow. -/
theorem HandsOver.commute {date₁ date₂ date₁' date₂' : Timestamp} (kept : s.Kept) (apart : a ≠ b)
    (runsA : ∃ u, s.graph.unit? a = some u ∧ u.status = .running)
    (runsB : ∃ u, s.graph.unit? b = some u ∧ u.status = .running)
    (ready : ∀ id u, s.graph.unit? id = some u → u.status = .queued → s.graph.unmetOf u = [])
    (first : s.HandsOver f date₁ a x p given n g) (second : n.HandsOver g date₂ b y q later t h)
    (first' : s.HandsOver f date₁' b y q given' n' g')
    (second' : n'.HandsOver g' date₂' a x p later' t' h') :
    given' = given ∧ later' = later ∧ t.Agrees t' ∧
      ∀ id, (h' id).map (·.undated) = (h id).map (·.undated) := by
  obtain ⟨_, refill⟩ := first.refill
  obtain ⟨_, refill₂⟩ := second.refill
  obtain ⟨_, refill'⟩ := first'.refill
  obtain ⟨_, refill₂'⟩ := second'.refill
  have spared (k : UnitId) (hA : k ≠ a) (hB : k ≠ b) : h' k = h k :=
    ((second'.elsewhere hA).trans (first'.elsewhere hB)).trans
      ((second.elsewhere hB).trans (first.elsewhere hA)).symm
  obtain ⟨rfl, rfl, agrees⟩ := Refill.commute kept runsA runsB ready apart refill refill₂ refill'
    refill₂'
    (fun l hl => (first'.elsewhere (kept.apart runsB hl)).trans
      (first.elsewhere (kept.apart runsA hl)).symm)
    (fun l hl => spared _ (kept.apart runsA hl) (kept.apart runsB hl))
  refine ⟨rfl, rfl, agrees, fun id => ?_⟩
  by_cases hA : id = a
  · subst hA
    rw [second.elsewhere apart]
    exact first.undated second' (first'.elsewhere apart)
  · by_cases hB : id = b
    · subst hB
      rw [second'.elsewhere apart.symm]
      exact (first'.undated second (first.elsewhere apart.symm)).symm
    · rw [spared id hA hB]

end Scheduler

namespace Session

variable {e : Event} {es : List Event} {id : UnitId} {x : Outcome} {p : Status}
  {round : Duration → Duration}

section

variable {m n t : Session (Noted StorageCall.forCheckpoints σ)}

theorem Trace.calm (h : Trace m es n) (calm : n.storage.failed = false) :
    m.storage.failed = false := by
  rw [← Bool.not_eq_true]
  intro noted
  cases calm.symm.trans (h.failed noted)

theorem Step.rests (h : Step m e n) (ends : x.EndsBy id e) (rest : x.rest? = some p) :
    n.scheduler = m.scheduler.release id p := by
  cases ends with
  | completed | suspended =>
      cases rest
      cases h
      rfl
  | retried | failed => cases rest

theorem Step.logAfter (h : Step m e n) (ends : x.EndsBy id e) (rest : x.rest? = some p)
    (logging : Storage.Logging good back stored) (retimed : Checkpoint.Retimed back round)
    (hm : good m.storage.inner) (clean : Checkpoint.Settled back (stored m.storage.inner))
    (fits : ∀ data, x = .suspended data →
      (back (.next (stored m.storage.inner id) id data m.date)).isSome)
    (calm : n.storage.failed = false) :
    ∃ date, stored n.storage.inner = Function.update (stored m.storage.inner) id
      ((x.rounded round).logAfter id (stored m.storage.inner id) date) := by
  cases ends with
  | completed =>
      cases h with
      | complete live status slot =>
          cases deleted : (Storage.deleteAll id m.storage).1 with
          | error refusal =>
              have noted := Noted.failed_of_error (Prod.ext deleted rfl :
                Noted.note .deleteAll (Storage.deleteAll id) m.storage = (.error refusal, _))
              cases calm.symm.trans (noted (by decide))
          | ok => exact ⟨.epoch, logging.emptied m.storage.inner id hm clean deleted⟩
  | @suspended data =>
      obtain ⟨read, hread⟩ := Option.isSome_iff_exists.1 (fits data rfl)
      obtain ⟨_, _, added⟩ := h.stored_suspend (Noted.logging _ logging) hm
      refine ⟨read.createdAt, ?_⟩
      rw [added, hread, Option.toList_some, retimed _ _ hread]
      rfl
  | retried | failed => cases rest

/-- As long as no call about checkpoints fails, the outcome of a unit that runs ends its run. -/
theorem ofOutcome_ends (holds : Op.HoldsSlot t.scheduler id) (rest : x.rest? = some p)
    (calm : ((Command.ofOutcome id x).perform.run t).2.storage.failed = false) :
    ∃ e ended, x.EndsBy id e ∧ Op.Concludes t id e ended ∧
      (Command.ofOutcome id x).perform.run t = (ended.1.map (.ended ∘ some), ended.2) := by
  cases x with
  | completed =>
      obtain concludes | ⟨_, _, idle⟩ := Op.completed_concludes id t
      · exact ⟨_, _, .completed, concludes, Op.run_map ..⟩
      · exact absurd holds idle
  | failed => cases rest
  | suspended data =>
      obtain concludes | ⟨refusal, e, n, step, lost, hrun⟩ | ⟨_, _, idle⟩ :=
        Op.suspended_concludes id data t
      · exact ⟨_, _, .suspended, concludes, Op.run_map ..⟩
      · rw [Command.ofOutcome, Command.perform, Op.run_map, hrun] at calm
        cases calm.symm.trans (step.lost (by decide) lost)
      · exact absurd holds idle

end

theorem handsOver_noted {t : Session (Noted StorageCall.forCheckpoints σ)}
    (kept : t.scheduler.Kept) (ordered : t.scheduler.queue.InOrder)
    (holds : Op.HoldsSlot t.scheduler id) (rest : x.rest? = some p)
    (logging : Storage.Logging good back stored) (retimed : Checkpoint.Retimed back round)
    (ht : good t.storage.inner) (clean : Checkpoint.Settled back (stored t.storage.inner))
    (fits : ∀ data report, x = .suspended data →
      ((Command.ofOutcome id x).perform.run t).1 = .ok (.ended (some report)) →
        (back (.next (stored t.storage.inner id) id data t.date)).isSome)
    (calm : ((Command.ofOutcome id x).perform.run t).2.storage.failed = false) :
    ∃ given date, ((Command.ofOutcome id x).perform.run t).1 = .ok (.ended (some ⟨id, p, given⟩)) ∧
      t.scheduler.HandsOver (stored t.storage.inner) date id (x.rounded round) p given
        ((Command.ofOutcome id x).perform.run t).2.scheduler
        (stored ((Command.ofOutcome id x).perform.run t).2.storage.inner) := by
  have logging' := Noted.logging StorageCall.forCheckpoints logging
  obtain ⟨e, ended, ends, concludes, hrun⟩ := ofOutcome_ends holds rest calm
  rw [hrun] at calm fits ⊢
  obtain @⟨m, status, step⟩ := concludes
  have rests := step.rests ends rest
  obtain ⟨given, n, v, served, left, promote, hserved, stops⟩ :=
    promote_served (step.kept kept) (step.inOrder ordered)
  rw [run_conclude promote] at calm fits ⊢
  have calm : n.storage.failed = false := Step.flush.trace.calm calm
  obtain ⟨es, n', hrun', trace, promotions⟩ := Op.promote_trace m
  obtain ⟨_, rfl⟩ := Prod.mk.inj (promote.symm.trans hrun')
  have hm := step.keeps_good logging'.toCareful ht
  obtain ⟨date, logs⟩ := step.logAfter ends rest logging retimed ht clean
    (fun data suspends => fits data _ suspends rfl) (trace.calm calm)
  have others : ∀ e ∈ es ++ [.flush], e.isDeposit = false := List.forall_mem_append.2
    ⟨fun e he => isDeposit_of_isPromotion (promotions e he), List.forall_mem_singleton.2 rfl⟩
  obtain ⟨_, spared⟩ := (trace.snoc .flush).spares logging'.toCareful hm others
  have done : n.scheduler.isFull = true ∨ left = [] := by
    cases stops with
    | full full => exact .inl full
    | exhausted => exact .inr rfl
    | stalled room admits read => cases calm.symm.trans (Noted.failed_of_error read (by decide))
  obtain ⟨u, running, live, _, _⟩ := holds
  have unit : n.scheduler.graph.unit? id = some { u with status := p } := by
    refine hserved.spares (rests ▸ Graph.unit?_update_self live) ?_
    cases x <;> cases rest <;> simp
  refine ⟨given, date, by rw [unit]; rfl, ⟨served, ?_⟩, spared.trans logs, ?_⟩
  · have refill := hserved.refill logging'.toLegible hm done
    rwa [rests, ← spared] at refill
  · intro k w other live' runs
    refine hserved.spares ?_ (by simp [runs])
    rw [rests]
    exact (Graph.unit?_setStatus_of_ne other ..).trans live'

section

variable {s t r r' : Session σ} {calls : List (Call σ)} {c c' d d' : Call σ} {a b : UnitId}
  {y : Outcome} {q : Status}

/-- As long as no call about checkpoints fails, the outcome of a unit that runs is accepted. -/
theorem call_handsOver (kept : t.scheduler.Kept) (ordered : t.scheduler.queue.InOrder)
    (running : ∃ u, t.scheduler.graph.unit? id = some u ∧ u.status = .running)
    (rest : x.rest? = some p) (logging : Storage.Logging good back stored)
    (retimed : Checkpoint.Retimed back round) (ht : good t.storage)
    (clean : Checkpoint.Settled back (stored t.storage))
    (fits : (t.call (.ofOutcome id x)).Fits back stored)
    (unhampered : ¬ (t.call (.ofOutcome id x)).Hampered) :
    ∃ given date, (t.call (.ofOutcome id x)).answer = .ok (.ended (some ⟨id, p, given⟩)) ∧
      t.scheduler.HandsOver (stored t.storage) date id (x.rounded round) p given
        (t.call (.ofOutcome id x)).after.scheduler
        (stored (t.call (.ofOutcome id x)).after.storage) := by
  have frees : (Command.ofOutcome id x).freesSlots = true := Command.Tells.reported.freesSlots
  obtain ⟨answer, after⟩ := noted_call (t := t) StorageCall.forCheckpoints frees
  have holds : Op.HoldsSlot (t.noted StorageCall.forCheckpoints).scheduler id := by
    obtain ⟨u, live, runs⟩ := running
    obtain ⟨slot, held⟩ := kept.running_iff.2 ⟨u, live, runs⟩
    exact ⟨u, slot, live, runs, held⟩
  have readable (data : CheckpointData) (report : TransitionReport) (suspends : x = .suspended data)
      (accepted : ((Command.ofOutcome id x).perform.run
        (t.noted StorageCall.forCheckpoints)).1 = .ok (.ended (some report))) :
      (back (.next (stored t.storage id) id data t.date)).isSome := by
    subst suspends
    obtain ⟨read, hread, _⟩ := fits _ (Call.saved?_of_suspended rfl (answer.trans accepted))
    exact Option.isSome_of_eq_some hread
  obtain ⟨given, date, answered, refill, logs, running⟩ :=
    handsOver_noted (t := t.noted StorageCall.forCheckpoints) kept ordered holds rest logging
      retimed ht clean readable (Bool.eq_false_iff.2 unhampered)
  refine ⟨given, date, answer.trans answered, ?_⟩
  rw [after]
  exact ⟨refill, logs, running⟩

/-- Two units hand over their slots one after the other, while time passes. -/
theorem Run.handsOver_both (run : Run t [c, d] r) (kept : t.scheduler.Kept)
    (ordered : t.scheduler.queue.InOrder) (logging : Storage.Logging good back stored)
    (retimed : Checkpoint.Retimed back round) (ht : good t.storage)
    (clean : Checkpoint.Settled back (stored t.storage)) (apart : a ≠ b)
    (runsA : ∃ u, t.scheduler.graph.unit? a = some u ∧ u.status = .running)
    (runsB : ∃ u, t.scheduler.graph.unit? b = some u ∧ u.status = .running)
    (hx : x.rest? = some p) (hy : y.rest? = some q) (hc : c.command = .ofOutcome a x)
    (hd : d.command = .ofOutcome b y) (fits : c.Fits back stored ∧ d.Fits back stored)
    (unhampered : ¬ c.Hampered ∧ ¬ d.Hampered) :
    ∃ given later date date' n g,
      c.answer = .ok (.ended (some ⟨a, p, given⟩)) ∧
      d.answer = .ok (.ended (some ⟨b, q, later⟩)) ∧
      t.scheduler.HandsOver (stored t.storage) date a (x.rounded round) p given n g ∧
      n.HandsOver g date' b (y.rounded round) q later r.scheduler (stored r.storage) := by
  obtain ⟨n, _, _, front, hd', rfl⟩ := Run.call_inv (show Run t ([c] ++ [d]) r from run)
  obtain ⟨m, clock', date', before, hc', rfl⟩ := Run.call_inv (show Run t ([] ++ [c]) n from front)
  obtain ⟨clock, date, rfl⟩ := before.nil_inv
  rw [hc] at hc'
  rw [hd] at hd'
  subst hc' hd'
  obtain ⟨given, read, answered, first⟩ := call_handsOver (t := { t with clock, date }) kept ordered
    runsA hx logging retimed ht clean fits.1 unhampered.1
  obtain ⟨es, trace⟩ := call_trace { t with clock, date } (.ofOutcome a x)
  have clean := (Session.call_deposits logging (t := { t with clock, date }) kept ht clean
    (.ofOutcome a x)).settled fits.1 clean
  generalize ({ t with clock, date }.call (.ofOutcome a x)).after = n at *
  have hn := trace.invariant (P := fun m => good m.storage)
    (fun _ _ _ step => step.keeps_good logging.toCareful) ht
  have runsB : ∃ u, n.scheduler.graph.unit? b = some u ∧ u.status = .running :=
    runsB.imp fun u h => ⟨first.running b u apart.symm h.1 h.2, h.2⟩
  obtain ⟨later, read', answered', second⟩ :=
    call_handsOver (t := { n with clock := clock', date := date' }) (trace.kept kept)
      (trace.inOrder ordered) runsB hy logging retimed hn clean fits.2 unhampered.2
  exact ⟨given, later, read, read', n.scheduler, stored n.storage, answered, answered', first,
    second⟩

end

/-- A session with two slots. -/
def paired : Session Vault :=
  fresh.change fun s => { s with limits := { s.limits with concurrency := 2 } }

/-- `lib` and `app` get the slots. Of those that wait `doc` goes first, but it becomes too large, and
`tool` needs `base`, which is complete. -/
def pairedCalls : List Command :=
  [.addUnit ⟨"base", .core, .complete, 0, 1000, ∅, 0, false⟩,
    .addUnit ⟨"lib", .core, .pending, 0, 1000, ∅, 0, false⟩,
    .addUnit ⟨"app", .core, .pending, 0, 1000, ∅, 0, false⟩,
    .addUnit ⟨"doc", .core, .pending, 0, 1000, ∅, 0, false⟩,
    .addUnit ⟨"tool", .core, .pending, 0, 1000, ∅, 0, false⟩,
    .addUnit ⟨"web", .core, .pending, 0, 1000, ∅, 0, false⟩, .addEdge "tool" "base",
    .requestLaunch "lib" ⟨"build", 1000⟩ 3, .requestLaunch "app" ⟨"build", 1000⟩ 3,
    .requestLaunch "doc" ⟨"build", 1000⟩ 1, .requestLaunch "tool" ⟨"build", 1000⟩ 2,
    .requestLaunch "web" ⟨"build", 1000⟩ 2, .updateSize "doc" 170000]

def crowded : Session Vault := paired.callAll pairedCalls

def outcomeCalls : List Command := [.completed "lib", .suspended "app" halfDone]

end Session

end BuildAdmission
