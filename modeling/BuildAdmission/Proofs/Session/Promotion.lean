import BuildAdmission.Proofs.Session.Step

namespace BuildAdmission

/-- Whether the event is one of those by which free slots are filled. -/
def Event.isPromotion : Event → Bool
  | .promote .. | .demote _ | .drop _ | .stall _ => true
  | _ => false

namespace Op

open Session

variable {σ : Type} [Storage σ] {id : UnitId} {u : WorkUnit}

theorem run_giveSlot (s : Session σ) (task : LaunchTask)
    (live : s.scheduler.graph.unit? id = some u) :
    (giveSlot id task).run s = match Storage.latest? id s.storage with
      | (.ok latest, storage) =>
        (.ok ⟨{ u with status := .running }, task, latest.map (·.resume), s.scheduler.nextTicket⟩,
          (s.withStorage storage).change (·.start id task s.clock))
      | (.error refusal, storage) => (.error refusal, s.withStorage storage) := by
  rw [giveSlot, run_bind, run_ofStorage]
  rcases Storage.latest? id s.storage with ⟨refusal | latest, storage⟩
  · rfl
  · simp only [run_bind, run_get, run_liftM, withStorage_scheduler, Graph.get_eq_ok_iff.2 live,
      run_change, run_pure]
    rfl

omit [Storage σ] in
theorem run_demote (id : UnitId) (action : AuditAction) (detail : String) (s : Session σ) :
    (demote id action detail : Op σ Unit).run s =
      (.ok (), (s.change (·.setStatus id .pending)).log id action (some detail)) := rfl

/-- One turn of filling free slots. It ends the filling if no slot is free or no launch waits.
Otherwise it takes one launch from the queue, after which the filling ends with a stall or goes
on. -/
theorem promoteUpTo_turn (count : Nat) (s : Session σ) :
    (s.scheduler.isFull = true ∨ s.scheduler.queue.pop? = none) ∧
        (promoteUpTo (count + 1)).run s = (.ok [], s) ∨
      ∃ e t, Step s e t ∧ e.isPromotion = true ∧
        ((∃ id, e = .stall id) ∧ (promoteUpTo (count + 1)).run s = (.ok [], t) ∨
          (∀ id, e ≠ .stall id) ∧ ∀ given r, (promoteUpTo count).run t = (.ok given, r) →
            (promoteUpTo (count + 1)).run s = (.ok (e.admission?.toList ++ given), r)) := by
  rw [promoteUpTo, run_bind_ok (run_scheduler s)]
  cases room : s.scheduler.isFull with
  | true => exact .inl ⟨.inl rfl, rfl⟩
  | false =>
      simp only [Bool.false_eq_true, if_false]
      cases pop : s.scheduler.queue.pop? with
      | none => exact .inl ⟨.inr rfl, rfl⟩
      | some next =>
          obtain ⟨launch, queue⟩ := next
          refine .inr ?_
          simp only
          rw [run_bind_ok (run_change ..)]
          cases waits : (s.scheduler.graph.unit? launch.unitId).filter (·.status = .queued) with
          | none => exact ⟨_, _, .drop pop waits, rfl, .inr ⟨by simp, fun given r hrun => hrun⟩⟩
          | some u =>
              obtain ⟨live, queued⟩ : s.scheduler.graph.unit? launch.unitId = some u ∧
                  u.status = .queued := by
                simpa [Option.filter_eq_some_iff] using waits
              cases gate : s.scheduler.gate u launch.task with
              | waiting unmet =>
                  refine ⟨_, _, .demote room pop live queued (.inl ⟨unmet, gate, rfl, rfl⟩), rfl,
                    .inr ⟨by simp, fun given r hrun => ?_⟩⟩
                  simp only [gate]
                  exact (run_bind_ok (run_demote ..)).trans hrun
              | tooLarge decision reason =>
                  refine ⟨_, _, .demote room pop live queued (.inr ⟨decision, gate, rfl⟩), rfl,
                    .inr ⟨by simp, fun given r hrun => ?_⟩⟩
                  simp only [gate]
                  exact (run_bind_ok (run_demote ..)).trans hrun
              | passed =>
                  have slot := run_giveSlot (s.change fun s => { s with queue }) launch.task live
                  have tried := run_tryCatch (some <$> giveSlot launch.unitId launch.task)
                    (fun _ => pure none) (s.change fun s => { s with queue })
                  simp only [gate]
                  rcases read : Storage.latest? launch.unitId s.storage with ⟨refusal | latest, storage⟩
                  · simp only [change_storage, read] at slot
                    simp only [run_map, slot, Except.map] at tried
                    refine ⟨_, _, .stall room pop live queued gate read, rfl, .inl ⟨⟨_, rfl⟩, ?_⟩⟩
                    rw [run_bind_ok tried]
                    rfl
                  · simp only [change_storage, read] at slot
                    simp only [run_map, slot, Except.map] at tried
                    refine ⟨_, _, .promote room pop live queued gate read, rfl,
                      .inr ⟨by simp, fun given r hrun => ?_⟩⟩
                    rw [run_bind_ok tried]
                    exact (run_bind_ok (run_record ..)).trans (run_bind_ok hrun)

/-- Filling free slots never fails. Each launch taken from the queue is one event, and the
admissions are those that the events make. -/
theorem promoteUpTo_trace (count : Nat) (s : Session σ) :
    ∃ es t, (promoteUpTo count).run s = (.ok (Event.admissions es), t) ∧ Trace s es t ∧
      ∀ e ∈ es, e.isPromotion = true := by
  induction count generalizing s with
  | zero => exact ⟨[], s, rfl, .nil, by simp⟩
  | succ count ih =>
      obtain ⟨_, hrun⟩ | ⟨e, t, step, promotes, ⟨⟨id, rfl⟩, hrun⟩ | ⟨_, goesOn⟩⟩ :=
        promoteUpTo_turn count s
      · exact ⟨[], s, hrun, .nil, by simp⟩
      · exact ⟨[.stall id], t, hrun, step.trace, by simpa using promotes⟩
      · obtain ⟨es, r, hrun, trace, hes⟩ := ih t
        refine ⟨e :: es, r, ?_, .cons step trace, ?_⟩
        · rw [Event.admissions_cons]
          exact goesOn _ r hrun
        · intro d hd
          rcases List.mem_cons.1 hd with rfl | hd
          · exact promotes
          · exact hes d hd

theorem promote_trace (s : Session σ) :
    ∃ es t, (promote : Op σ _).run s = (.ok (Event.admissions es), t) ∧ Trace s es t ∧
      ∀ e ∈ es, e.isPromotion = true :=
  promoteUpTo_trace s.scheduler.queue.size s

end Op

end BuildAdmission
