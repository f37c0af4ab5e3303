import BuildAdmission.Proofs.Session.Conservation
import BuildAdmission.Proofs.Session.Durability

namespace BuildAdmission

variable {σ : Type} [Storage σ] {good sound : σ → Prop} {accepted : UnitId → Prop}
  {stored : σ → UnitId → List Checkpoint} {onFile : σ → List WorkUnit} {s t : Session σ}
  {calls : List (Call σ)} {u : WorkUnit}

/-- A name that is taken is refused, if not for the status of the unit that asks for it. -/
theorem Op.run_addUnit_taken (taken : s.scheduler.graph.isTaken u.id = true) :
    (addUnit u).run s = (.error (if u.status = .pending ∨ u.status = .complete
      then .duplicateUnit u.id else .invalidTransition u.id u.status .pending), s) := by
  have refused : s.scheduler.graph.addUnit u = .error (.duplicateUnit u.id) := by
    rw [Graph.addUnit, if_pos taken]
    rfl
  unfold addUnit
  by_cases fresh : u.status = .pending ∨ u.status = .complete
  · have edit : (Op.edit fun g => (g.addUnit u).map ((), ·) : Op σ Unit).run s =
        (.error (.duplicateUnit u.id), s) := by
      rw [run_edit, refused]
      rfl
    rw [if_neg (by tauto), if_pos fresh]
    exact run_bind_error edit
  · rw [if_pos (by tauto), if_neg fresh]
    rfl

namespace Session

open Storage

/-- What a restart makes of the scheduler `t` when its units have these logs. No run and no place in
the queue outlives it. -/
structure Restored (log : UnitId → List Checkpoint) (t s : Scheduler) : Prop where
  limits : s.limits = t.limits
  running : s.running = ∅
  queue : s.queue = .empty
  archived : s.graph.archived = t.graph.archived
  live : ∀ id, s.graph.unit? id =
    (t.graph.unit? id).map fun u => { u with status := u.status.recovered (log id) }

theorem call_flush (s : Session σ) : (s.call .flush).answer =
    (Storage.flush s.scheduler.graph.records s.storage).1.map (fun _ => .done) ∧
      (s.call .flush).after = s.flushed := by
  constructor <;> rw [call, Command.perform, Op.run_map, Op.run_flush]

/-- After a shutdown that could write the records down, a restart succeeds, whatever was done before,
if the logs of the units that were active can be read. It leaves the checkpoints alone, brings every
unit back and writes that down, so that another restart changes nothing. A name that was ever taken
is still refused. -/
theorem Run.restarts (recording : Recording good stored onFile)
    (reliable : Reliable sound accepted stored onFile) (opened : Opened s) (start : good s.storage)
    (run : Run s calls t)
    (named : ∀ id u, t.scheduler.graph.unit? id = some u → u.status.isActive = true → accepted id)
    (shutdown : (t.call .flush).answer = .ok .done) (budget : Budget) {found : σ}
    (hfound : sound found) (logs : stored found = stored (t.call .flush).after.storage)
    (files : onFile found = onFile (t.call .flush).after.storage) :
    ∃ m v, (Scheduler.restore t.scheduler.limits budget).run found = (.ok m, v) ∧
      Restored (stored t.storage) t.scheduler m ∧ m.budget = budget ∧
      stored v = stored t.storage ∧ onFile v = m.graph.records ∧
      (∃ w, (Scheduler.restore t.scheduler.limits budget).run v = (.ok m, w) ∧
        stored w = stored v ∧ onFile w = onFile v) ∧
      ∀ before more p, Run s before p → Run p more t →
        ∀ u : WorkUnit, p.scheduler.graph.isTaken u.id = true →
          ∀ n : Session σ, n.scheduler = m → (n.call (.addUnit u)).after = n ∧
            (n.call (.addUnit u)).answer = .error (if u.status = .pending ∨ u.status = .complete
              then .duplicateUnit u.id else .invalidTransition u.id u.status .pending) := by
  have built := run.built opened
  have ht := run.keeps_good recording.toCareful start
  have check := run.check opened
  obtain ⟨answer, flushed⟩ := call_flush t
  obtain ⟨⟨⟩, written, _⟩ := Except.map_eq_ok_iff.1 (answer.symm.trans shutdown)
  rw [flushed] at logs files
  replace files : onFile found = t.scheduler.graph.records :=
    files.trans (recording.written _ _ ht written)
  replace logs : stored found = stored t.storage :=
    logs.trans (recording.flush t.storage t.scheduler.graph.records ht).2
  obtain ⟨v, restored, hv, same, filed⟩ :=
    Scheduler.restore_run reliable check budget built named hfound files logs
  have rested : ∀ id u, (t.scheduler.graph.recovered (stored t.storage)).unit? id = some u →
      u.status.isActive = true → accepted id := by
    intro id u live active
    rw [built.unit?_recovered] at live
    obtain ⟨w, _, rfl⟩ := Option.map_eq_some_iff.1 live
    cases active.symm.trans (Status.isActive_recovered w.status _)
  obtain ⟨w, again, _, same', filed'⟩ :=
    Scheduler.restore_run reliable check budget (built.recovered _) rested hv filed same
  rw [Graph.recovered_recovered] at again filed'
  refine ⟨_, v, restored, ⟨rfl, rfl, rfl, rfl, built.unit?_recovered _⟩, rfl, same, filed,
    ⟨w, again, same'.trans same.symm, filed'.trans filed.symm⟩, ?_⟩
  intro before more p earlier later u taken n hn
  have since := (later.grows (earlier.built opened)).2
  have taken' : n.scheduler.graph.isTaken u.id = true := by
    rw [hn]
    exact (Graph.isTaken_recovered ..).trans (since.taken taken)
  rw [Session.call, Command.perform, Op.run_map, Op.run_addUnit_taken taken']
  exact ⟨rfl, rfl⟩

/-- `lib` runs again after it was suspended, `app` waits for its slot, and `old` was taken out. -/
def interruptedCalls : List Command :=
  [.addUnit ⟨"lib", .core, .pending, 0, 1000, ∅, 0, false⟩,
    .addUnit ⟨"app", .core, .pending, 0, 1000, ∅, 0, false⟩,
    .addUnit ⟨"old", .core, .complete, 0, 1000, ∅, 0, false⟩, .archive "old",
    .requestLaunch "lib" ⟨"build", 1000⟩ 3, .suspended "lib" halfDone,
    .requestLaunch "lib" ⟨"build", 1000⟩ 3, .requestLaunch "app" ⟨"build", 1000⟩ 3]

def interrupted : Session Vault := narrow.callAll interruptedCalls

theorem restarts_interrupted : ∃ m v,
    (Scheduler.restore interrupted.scheduler.limits narrow.scheduler.budget).run
        (interrupted.call .flush).after.storage = (.ok m, v) ∧
      (interrupted.scheduler.graph.live.values.map fun u => (u.id, u.status)) =
        [("app", .queued), ("lib", .running)] ∧
      (["app", "lib"].map fun id => (m.graph.unit? id).map (·.status)) =
        [some .pending, some .checkpointed] ∧
      ∀ n : Session Vault, n.scheduler = m →
        (n.call (.addUnit ⟨"old", .core, .pending, 0, 1000, ∅, 0, false⟩)).answer =
          .error (.duplicateUnit "old") := by
  have run := run_callAll narrow interruptedCalls
  have memory := run.keeps_good Vault.careful_memory ⟨_, _, rfl⟩
  have after := (Vault.careful_memory.flush _ interrupted.scheduler.graph.records memory).1
  obtain ⟨m, v, made, restored, _, _, _, _, refused⟩ := run.restarts
    Vault.keeping_memory.toRecording Vault.reliable_memory opened_narrow ⟨_, _, rfl⟩
    (fun _ _ _ _ => trivial) (by decide +kernel) narrow.scheduler.budget
    ((call_flush interrupted).2 ▸ after) rfl rfl
  refine ⟨m, v, made, by decide +kernel, ?_, fun n hn => ?_⟩
  · simp only [List.map_cons, List.map_nil, restored.live]
    decide +kernel
  · exact (refused _ _ interrupted run .nil _ (by decide +kernel) n hn).2

end Session

end BuildAdmission
