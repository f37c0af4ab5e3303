import BuildAdmission.Proofs.Session.Account

namespace BuildAdmission

/-- The events of a request for a slot, by its answer. Only a request that is refused for the size
of its unit, or fails to read the unit's checkpoints, leaves a change unflushed. -/
inductive Launched {σ : Type} (s : Session σ) (id : UnitId) (task : LaunchTask) (priority : Int32) :
    Except Refusal LaunchOutcome → List Event → Prop
  | unknown {refusal} (absent : s.scheduler.graph.unit? id = none) :
      Launched s id task priority (.error refusal) []
  | busy {refusal u} (live : s.scheduler.graph.unit? id = some u)
      (busy : u.status ≠ .pending ∧ u.status ≠ .checkpointed) :
      Launched s id task priority (.error refusal) []
  | blocked {unmet} : Launched s id task priority (.ok (.blocked unmet))
      [.prioritise id priority, .block id, .flush]
  | refused {u decision} (live : s.scheduler.graph.unit? id = some u) :
      Launched s id task priority (.ok (.splitRequired decision))
        [.prioritise id priority, .refuse id]
  | queued {position} : Launched s id task priority (.ok (.queued position))
      [.prioritise id priority, .enqueue id task, .flush]
  | unread {u refusal} (live : s.scheduler.graph.unit? id = some u)
      (idle : u.status = .pending ∨ u.status = .checkpointed) :
      Launched s id task priority (.error refusal) [.prioritise id priority, .unread id]
  | admitted {a} (asked : a.task = task) : Launched s id task priority (.ok (.admitted a))
      [.prioritise id priority, .grant id a, .flush]

namespace Graph

theorem unmetOf_update_priority (g : Graph) (id : UnitId) (priority : Int32) (u : WorkUnit) :
    (g.update id fun u => { u with priority }).unmetOf { u with priority } = g.unmetOf u := by
  refine List.filter_congr fun d _ => ?_
  rw [isComplete, isComplete, unit?_update]
  split
  · rw [Option.any_map]
  · rfl

end Graph

namespace Scheduler

/-- A launch begins with the unit's priority. -/
def prioritise (s : Scheduler) (id : UnitId) (priority : Int32) : Scheduler :=
  { s with graph := s.graph.update id fun u => { u with priority } }

theorem gate_prioritise (s : Scheduler) (id : UnitId) (priority : Int32) (u : WorkUnit)
    (task : LaunchTask) : (s.prioritise id priority).gate u task = s.gate u task := by
  have unmet : (s.prioritise id priority).graph.unmetOf u = s.graph.unmetOf u :=
    Graph.unmetOf_update_priority s.graph id priority u
  rw [gate, gate, unmet]
  rfl

end Scheduler

namespace Op

open Session

variable {σ : Type} [Storage σ] {id : UnitId} {u : WorkUnit} {s : Session σ}

/-- What a request for a slot for a live unit comes to. -/
theorem run_requestLaunch (live : s.scheduler.graph.unit? id = some u) (task : LaunchTask)
    (priority : Int32) : (requestLaunch id task priority).run s =
      if u.status = .pending ∨ u.status = .checkpointed then
        let m := s.change (·.prioritise id priority)
        match s.scheduler.gate u task with
        | .waiting unmet => (.ok (.blocked unmet),
            ((m.change (·.setStatus id .pending)).log id .block (some (waitingOn unmet))).flushed)
        | .tooLarge decision reason =>
            (.ok (.splitRequired decision), m.log id .splitRequired (some reason))
        | .passed =>
          if s.scheduler.isFull then
            let n := m.change (·.enqueue id task priority)
            let position := (n.scheduler.queue.position? id).getD 0
            (.ok (.queued position),
              (n.log id .enqueue (some ("position " ++ toString position))).flushed)
          else match Storage.latest? id s.storage with
            | (.ok latest, storage) =>
              (.ok (.admitted ⟨{ u with priority, status := .running }, task, latest.map (·.resume),
                  s.scheduler.nextTicket⟩),
                (((m.withStorage storage).change (·.start id task s.clock)).log id .admission
                  none).flushed)
            | (.error refusal, storage) => (.error refusal, m.withStorage storage)
      else (.error (.invalidTransition id u.status .queued), s) := by
  have noted : (change fun s => { s with graph := s.graph.update id fun u =>
      { u with priority } } : Op σ Unit).run s = (.ok (), s.change (·.prioritise id priority)) := rfl
  have live' : (s.change (·.prioritise id priority)).scheduler.graph.unit? id =
      some { u with priority } := Graph.unit?_update_self live
  have slot := run_giveSlot _ task live'
  have gate : (s.change (·.prioritise id priority)).scheduler.gate u task =
      s.scheduler.gate u task := Scheduler.gate_prioritise ..
  have full : (s.change (·.prioritise id priority)).scheduler.isFull = s.scheduler.isFull := rfl
  rw [requestLaunch, run_bind_ok (run_scheduler s), run_bind, run_liftM]
  simp only [Graph.get_eq_ok_iff.2 live]
  by_cases idle : u.status = .pending ∨ u.status = .checkpointed
  · rw [if_neg (by tauto), if_pos idle, run_bind_ok noted, run_bind_ok (run_scheduler _)]
    simp only [gate, full]
    cases s.scheduler.gate u task with
    | waiting unmet =>
        simp only
        rw [run_bind_ok (run_change ..), run_bind_ok (run_record ..), run_bind_ok (run_persist _)]
        rfl
    | tooLarge decision reason =>
        simp only
        rw [run_bind_ok (run_record ..)]
        rfl
    | passed =>
        cases s.scheduler.isFull with
        | true =>
            simp only [if_true]
            rw [run_bind_ok (run_change ..), run_bind_ok (run_scheduler _),
              run_bind_ok (run_record ..), run_bind_ok (run_persist _)]
            rfl
        | false =>
            simp only [Bool.false_eq_true, if_false]
            rw [run_bind, slot, change_storage]
            rcases Storage.latest? id s.storage with ⟨refusal | latest, storage⟩
            · rfl
            · simp only
              rw [run_bind_ok (run_record ..), run_bind_ok (run_persist _)]
              rfl
  · rw [if_pos (by tauto), if_neg idle]
    rfl

theorem requestLaunch_trace (id : UnitId) (task : LaunchTask) (priority : Int32) (s : Session σ) :
    ∃ es, Launched s id task priority ((requestLaunch id task priority).run s).1 es ∧
      Trace s es ((requestLaunch id task priority).run s).2 := by
  cases live : s.scheduler.graph.unit? id with
  | none =>
      rw [requestLaunch, run_bind_ok (run_scheduler s), run_bind, run_liftM, Graph.get_eq_error live]
      exact ⟨[], .unknown live, .nil⟩
  | some u =>
      rw [run_requestLaunch live]
      by_cases idle : u.status = .pending ∨ u.status = .checkpointed
      · rw [if_pos idle]
        have step : Step s (.prioritise id priority) (s.change (·.prioritise id priority)) :=
          .prioritise live idle
        have live' : (s.change (·.prioritise id priority)).scheduler.graph.unit? id =
            some { u with priority } := Graph.unit?_update_self live
        have same : (s.change (·.prioritise id priority)).scheduler.gate { u with priority } task =
            s.scheduler.gate u task := Scheduler.gate_prioritise ..
        cases gate : s.scheduler.gate u task with
        | waiting unmet =>
            exact ⟨_, .blocked,
              .cons step (.cons (.block live' idle (same.trans gate)) (.cons .flush .nil))⟩
        | tooLarge decision reason =>
            exact ⟨_, .refused live, .cons step (.cons (.refuse live' idle (same.trans gate)) .nil)⟩
        | passed =>
            cases full : s.scheduler.isFull with
            | true =>
                exact ⟨_, .queued, .cons step
                  (.cons (.enqueue live' idle (same.trans gate) full rfl) (.cons .flush .nil))⟩
            | false =>
                simp only [Bool.false_eq_true, if_false]
                rcases read : Storage.latest? id s.storage with ⟨refusal | latest, storage⟩
                · exact ⟨_, .unread live idle, .cons step (.cons (.unread read) .nil)⟩
                · exact ⟨_, .admitted rfl, .cons step
                    (.cons (.grant live' idle (same.trans gate) full read) (.cons .flush .nil))⟩
      · rw [if_neg idle]
        exact ⟨[], .busy live (by tauto), .nil⟩

end Op

end BuildAdmission
