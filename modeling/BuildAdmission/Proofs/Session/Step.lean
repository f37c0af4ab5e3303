import BuildAdmission.Proofs.Scheduler.Kept
import BuildAdmission.Proofs.Session.Operation
import BuildAdmission.Scheduler.Edit
import BuildAdmission.Scheduler.Launch
import BuildAdmission.Scheduler.Transition

namespace BuildAdmission

/-- What happens in a session. Each event takes the session from one consistent state to the next. -/
inductive Event where
  | register (u : WorkUnit)
  | connect (source target : UnitId)
  | resize (id : UnitId) (size : UInt64)
  | retune (thresholds : Thresholds)
  | reset (id : UnitId)
  | withdraw (id : UnitId)
  | reinstate (id : UnitId)
  | archive (id : UnitId)
  | split (plan : SplitPlan)
  | prioritise (id : UnitId) (priority : Int32)
  | block (id : UnitId)
  | refuse (id : UnitId)
  | enqueue (id : UnitId) (task : LaunchTask)
  | grant (id : UnitId) (admission : Admission)
  | promote (id : UnitId) (admission : Admission)
  | demote (id : UnitId)
  | drop (launch : QueuedLaunch)
  | stall (id : UnitId)
  | suspend (id : UnitId) (data : CheckpointData)
  | complete (id : UnitId)
  | retry (id : UnitId)
  | fail (id : UnitId)
  | expire (id : UnitId)
  | progress (id : UnitId)
  | unread (id : UnitId)
  | unsaved (id : UnitId)
  | flush

namespace Event

def admission? : Event → Option Admission
  | grant _ admission | promote _ admission => some admission
  | _ => none

@[simp] theorem admission?_flush : flush.admission? = none := rfl

def admissions (es : List Event) : List Admission := es.filterMap admission?

@[simp] theorem admissions_nil : admissions [] = [] := rfl

@[simp] theorem admissions_cons (e : Event) (es : List Event) :
    admissions (e :: es) = e.admission?.toList ++ admissions es := by
  cases h : e.admission? <;> simp [admissions, h]

@[simp] theorem admissions_append (es es' : List Event) :
    admissions (es ++ es') = admissions es ++ admissions es' := List.filterMap_append

end Event

namespace Session

variable {σ : Type} [Storage σ]

/-- What each event needs and what it does. -/
inductive Step : Session σ → Event → Session σ → Prop
  | register {m u graph} (status : u.status = .pending ∨ u.status = .complete)
      (added : m.scheduler.graph.addUnit u = .ok graph) :
      Step m (.register u) ((m.change fun s => { s with graph }).log u.id .register none)
  | connect {m source target graph} (added : m.scheduler.graph.addEdge source target = .ok graph) :
      Step m (.connect source target) (m.change fun s => { s with graph })
  | resize {m id u size} (live : m.scheduler.graph.unit? id = some u) :
      Step m (.resize id size) (m.change fun s =>
        { s with graph := s.graph.update id fun u => { u with declaredSize := size } })
  | retune {m thresholds budget} (valid : m.scheduler.budget.withThresholds thresholds = .ok budget) :
      Step m (.retune thresholds) (m.change fun s => { s with budget })
  | reset {m id u} (live : m.scheduler.graph.unit? id = some u) (failed : u.status = .failed) :
      Step m (.reset id) ((m.change fun s =>
        { s with graph := s.graph.update id fun u =>
          { u with status := .pending, retryCount := 0 } }).log id .reset none)
  | withdraw {m id u launch queue} (live : m.scheduler.graph.unit? id = some u)
      (idle : u.status ≠ .running) (found : m.scheduler.queue.remove? id = some (launch, queue)) :
      Step m (.withdraw id) (m.change fun s => { s.setStatus id .pending with queue })
  | reinstate {m id u launch queue} (live : m.scheduler.graph.unit? id = some u)
      (idle : u.status ≠ .running) (found : m.scheduler.queue.remove? id = some (launch, queue)) :
      Step m (.reinstate id) (m.change fun s =>
        { (s.setStatus id .pending).setStatus id .queued with queue := queue.requeue launch })
  | archive {m id v u graph} (live : m.scheduler.graph.unit? id = some v)
      (idle : v.status ≠ .running)
      (free : v.status ≠ .queued ∨ ∀ l ∈ m.scheduler.queue.entries, l.unitId ≠ id)
      (archived : m.scheduler.graph.archive id = .ok (u, graph)) :
      Step m (.archive id) ((m.change fun s => { s with graph }).log id .archive none)
  | split {m plan v ids graph} (live : m.scheduler.graph.unit? plan.whole = some v)
      (idle : v.status ≠ .running)
      (free : v.status ≠ .queued ∨ ∀ l ∈ m.scheduler.queue.entries, l.unitId ≠ plan.whole)
      (accepted : m.scheduler.graph.split plan = .ok (ids, graph)) :
      Step m (.split plan) (ids.foldl
        (fun m id => m.log id .register (some ("split from " ++ plan.whole)))
        ((m.change fun s => { s with graph }).log plan.whole .split
          (some ("replaced by " ++ describeIds ids))))
  | prioritise {m id u priority} (live : m.scheduler.graph.unit? id = some u)
      (idle : u.status = .pending ∨ u.status = .checkpointed) :
      Step m (.prioritise id priority) (m.change fun s =>
        { s with graph := s.graph.update id fun u => { u with priority } })
  | block {m id u task unmet} (live : m.scheduler.graph.unit? id = some u)
      (idle : u.status = .pending ∨ u.status = .checkpointed)
      (gate : m.scheduler.gate u task = .waiting unmet) :
      Step m (.block id)
        ((m.change (·.setStatus id .pending)).log id .block (some (Op.waitingOn unmet)))
  | refuse {m id u task decision reason} (live : m.scheduler.graph.unit? id = some u)
      (idle : u.status = .pending ∨ u.status = .checkpointed)
      (gate : m.scheduler.gate u task = .tooLarge decision reason) :
      Step m (.refuse id) (m.log id .splitRequired (some reason))
  | enqueue {m id u task position} (live : m.scheduler.graph.unit? id = some u)
      (idle : u.status = .pending ∨ u.status = .checkpointed)
      (gate : m.scheduler.gate u task = .passed) (full : m.scheduler.isFull = true)
      (behind : position = ((m.scheduler.enqueue id task u.priority).queue.position? id).getD 0) :
      Step m (.enqueue id task) ((m.change (·.enqueue id task u.priority)).log id .enqueue
        (some ("position " ++ toString position)))
  | grant {m id u task latest storage} (live : m.scheduler.graph.unit? id = some u)
      (idle : u.status = .pending ∨ u.status = .checkpointed)
      (gate : m.scheduler.gate u task = .passed) (room : m.scheduler.isFull = false)
      (read : Storage.latest? id m.storage = (.ok latest, storage)) :
      Step m (.grant id ⟨{ u with status := .running }, task, latest.map (·.resume),
          m.scheduler.nextTicket⟩)
        (((m.withStorage storage).change (·.start id task m.clock)).log id .admission none)
  | promote {m launch queue u latest storage} (room : m.scheduler.isFull = false)
      (pop : m.scheduler.queue.pop? = some (launch, queue))
      (live : m.scheduler.graph.unit? launch.unitId = some u) (queued : u.status = .queued)
      (gate : m.scheduler.gate u launch.task = .passed)
      (read : Storage.latest? launch.unitId m.storage = (.ok latest, storage)) :
      Step m (.promote launch.unitId ⟨{ u with status := .running }, launch.task,
          latest.map (·.resume), m.scheduler.nextTicket⟩)
        (((m.withStorage storage).change fun s =>
          { s with queue }.start launch.unitId launch.task m.clock).log launch.unitId .promote none)
  | demote {m launch queue u action detail} (room : m.scheduler.isFull = false)
      (pop : m.scheduler.queue.pop? = some (launch, queue))
      (live : m.scheduler.graph.unit? launch.unitId = some u) (queued : u.status = .queued)
      (gate : (∃ unmet, m.scheduler.gate u launch.task = .waiting unmet ∧ action = .block ∧
          detail = Op.waitingOn unmet) ∨
        (∃ decision, m.scheduler.gate u launch.task = .tooLarge decision detail ∧
          action = .splitRequired)) :
      Step m (.demote launch.unitId) ((m.change fun s =>
        { s with queue }.setStatus launch.unitId .pending).log launch.unitId action (some detail))
  | drop {m launch queue} (pop : m.scheduler.queue.pop? = some (launch, queue))
      (stale : (m.scheduler.graph.unit? launch.unitId).filter (·.status = .queued) = none) :
      Step m (.drop launch) (m.change fun s => { s with queue })
  | stall {m launch queue u refusal storage} (room : m.scheduler.isFull = false)
      (pop : m.scheduler.queue.pop? = some (launch, queue))
      (live : m.scheduler.graph.unit? launch.unitId = some u) (queued : u.status = .queued)
      (gate : m.scheduler.gate u launch.task = .passed)
      (read : Storage.latest? launch.unitId m.storage = (.error refusal, storage)) :
      Step m (.stall launch.unitId)
        ((m.withStorage storage).change fun s => { s with queue := queue.requeue launch })
  | suspend {m id u running data latest storage storage'}
      (live : m.scheduler.graph.unit? id = some u) (status : u.status = .running)
      (slot : m.scheduler.running.find? id = some running)
      (read : Storage.latest? id m.storage = (.ok latest, storage))
      (saved : Storage.save ⟨id, Checkpoint.iterationOf latest + 1, data, m.date⟩ storage =
        (.ok (), storage')) :
      Step m (.suspend id data) (((m.withStorage storage').change (·.release id .checkpointed)).log id
        .suspend (some ("iteration " ++ toString (Checkpoint.iterationOf latest + 1).toNat ++ ", " ++
          toString data.remainingTasks.length ++ " tasks remaining")))
  | complete {m id u running} (live : m.scheduler.graph.unit? id = some u)
      (status : u.status = .running) (slot : m.scheduler.running.find? id = some running) :
      Step m (.complete id) (((m.change (·.release id .complete)).withStorage
        (Storage.deleteAll id m.storage).2).log id .complete none)
  | retry {m id u running reason} (live : m.scheduler.graph.unit? id = some u)
      (status : u.status = .running) (slot : m.scheduler.running.find? id = some running)
      (tries : u.retryCount < m.scheduler.limits.maxRetries) :
      Step m (.retry id)
        ((m.change (·.retry id (u.retryCount + 1) running.task u.priority)).log id .retry
          (some ("attempt " ++ toString (u.retryCount + 1).toNat ++ ": " ++ reason)))
  | fail {m id u running reason} (live : m.scheduler.graph.unit? id = some u)
      (status : u.status = .running) (slot : m.scheduler.running.find? id = some running)
      (tries : ¬ u.retryCount < m.scheduler.limits.maxRetries) :
      Step m (.fail id) ((m.change (·.release id .failed)).log id .fail (some reason))
  | expire {m id} :
      Step m (.expire id) (m.log id .expire
        (some ("no progress for " ++ m.scheduler.limits.idleTimeout.describe)))
  | progress {m id u running} (live : m.scheduler.graph.unit? id = some u)
      (status : u.status = .running) (slot : m.scheduler.running.find? id = some running) :
      Step m (.progress id) (m.change fun s =>
        { s with running := s.running.modify id fun r => { r with lastProgress := m.clock } })
  | unread {m id refusal storage} (read : Storage.latest? id m.storage = (.error refusal, storage)) :
      Step m (.unread id) (m.withStorage storage)
  | unsaved {m id data latest refusal storage storage'}
      (read : Storage.latest? id m.storage = (.ok latest, storage))
      (save : Storage.save ⟨id, Checkpoint.iterationOf latest + 1, data, m.date⟩ storage =
        (.error refusal, storage')) :
      Step m (.unsaved id) (m.withStorage storage')
  | flush {m} : Step m .flush m.flushed

/-- How an event leaves the storage. -/
inductive Touch (m : Session σ) : Event → σ → Prop
  | untouched {e} : Touch m e m.storage
  | read {e id result v} (read : Storage.latest? id m.storage = (result, v)) : Touch m e v
  | saved {id data latest c v w} (read : Storage.latest? id m.storage = (.ok latest, v))
      (saved : Storage.save c v = (.ok (), w)) : Touch m (.suspend id data) w
  | unsaved {e id latest c refusal v w} (read : Storage.latest? id m.storage = (.ok latest, v))
      (saved : Storage.save c v = (.error refusal, w)) : Touch m e w
  | deleted {id} : Touch m (.complete id) (Storage.deleteAll id m.storage).2
  | flushed : Touch m .flush (Storage.flush m.scheduler.graph.records m.storage).2

/-- The events between two states of a session, in order. -/
inductive Trace : Session σ → List Event → Session σ → Prop
  | nil {m} : Trace m [] m
  | cons {m n n' e es} (step : Step m e n) (rest : Trace n es n') : Trace m (e :: es) n'

variable {m n n' : Session σ} {e : Event} {es es' : List Event}

theorem Step.limits (h : Step m e n) : n.scheduler.limits = m.scheduler.limits := by
  cases h with
  | split => rw [foldl_log_scheduler]; rfl
  | _ => rfl

theorem Step.touch (h : Step m e n) : Touch m e n.storage := by
  cases h with
  | split live idle free accepted =>
      rw [foldl_log_storage]
      exact .untouched
  | grant live idle gate room read => exact .read read
  | promote room pop live queued gate read => exact .read read
  | stall room pop live queued gate read => exact .read read
  | suspend live status slot read saved => exact .saved read saved
  | complete live status slot => exact .deleted
  | unread read => exact .read read
  | unsaved read saved => exact .unsaved read saved
  | flush => exact .flushed
  | _ => exact .untouched

theorem Step.trace (h : Step m e n) : Trace m [e] n := .cons h .nil

theorem Trace.append (h : Trace m es n) (h' : Trace n es' n') : Trace m (es ++ es') n' := by
  induction h with
  | nil => exact h'
  | cons step _ ih => exact .cons step (ih h')

theorem Trace.snoc (h : Trace m es n) (step : Step n e n') : Trace m (es ++ [e]) n' :=
  h.append step.trace

theorem Trace.split (h : Trace m (es ++ es') n) : ∃ between, Trace m es between ∧
    Trace between es' n := by
  induction es generalizing m with
  | nil => exact ⟨m, .nil, h⟩
  | cons e es ih =>
      cases h with
      | cons step rest =>
          obtain ⟨between, front, back⟩ := ih rest
          exact ⟨between, .cons step front, back⟩

theorem Trace.at_mem (h : Trace m es n) (he : e ∈ es) :
    ∃ es₁ es₂ before after, es = es₁ ++ e :: es₂ ∧ Trace m es₁ before ∧ Step before e after ∧
      Trace after es₂ n := by
  obtain ⟨es₁, es₂, rfl⟩ := List.append_of_mem he
  obtain ⟨before, front, back⟩ := h.split
  cases back with
  | cons step rest => exact ⟨es₁, es₂, before, _, rfl, front, step, rest⟩

theorem Trace.limits (h : Trace m es n) : n.scheduler.limits = m.scheduler.limits := by
  induction h with
  | nil => rfl
  | cons step _ ih => exact ih.trans step.limits

theorem Trace.invariant {P : Session σ → Prop} (hstep : ∀ m e n, Step m e n → P m → P n)
    (h : Trace m es n) (hm : P m) : P n := by
  induction h with
  | nil => exact hm
  | cons step _ ih => exact ih (hstep _ _ _ step hm)

end Session

end BuildAdmission
