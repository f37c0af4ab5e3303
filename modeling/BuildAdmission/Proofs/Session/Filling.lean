import BuildAdmission.Proofs.Queue.Line
import BuildAdmission.Proofs.Session.Coherence

namespace BuildAdmission

/-- What is noted of a launch that is taken from the queue. -/
def Gate.verdict (id : UnitId) : Gate → AuditEntry
  | waiting unmet => ⟨id, .block, some (Op.waitingOn unmet)⟩
  | tooLarge _ reason => ⟨id, .splitRequired, some reason⟩
  | passed => ⟨id, .promote, none⟩

namespace Scheduler

variable {s s' : Scheduler} {l : QueuedLaunch} {u : WorkUnit}

/-- Whether the launch may have a slot: the dependencies of its unit are complete, and the budget
allows it. -/
def admits (s : Scheduler) (l : QueuedLaunch) : Bool :=
  (s.graph.unit? l.unitId).any fun u => (s.graph.unmetOf u).isEmpty &&
    (s.budget.check u.declaredSize l.task.estimatedCost).refusal?.isNone

def verdict (s : Scheduler) (l : QueuedLaunch) : AuditEntry :=
  ((s.graph.unit? l.unitId).elim .passed (s.gate · l.task)).verdict l.unitId

/-- What becomes of a scheduler `t` when a launch is taken from the queue, as `s` decides: the unit
gets a slot, or it is pending again. -/
def serve (s : Scheduler) (now : Nat) (t : Scheduler) (l : QueuedLaunch) : Scheduler :=
  if s.admits l then t.start l.unitId l.task now else t.setStatus l.unitId .pending

theorem isFull_eq_false_iff : s.isFull = false ↔ s.running.size < s.limits.concurrency.toNat := by
  simp [isFull]

theorem admits_iff (live : s.graph.unit? l.unitId = some u) :
    s.admits l = true ↔ s.gate u l.task = .passed := by
  rw [admits, live, Option.any_some, gate]
  cases s.graph.unmetOf u with
  | nil => cases h : (s.budget.check u.declaredSize l.task.estimatedCost).refusal? <;> simp [h]
  | cons d ds => simp

theorem verdict_eq (live : s.graph.unit? l.unitId = some u) :
    s.verdict l = (s.gate u l.task).verdict l.unitId := by
  rw [verdict, live]
  rfl

theorem serve_of_admits {t : Scheduler} (h : s.admits l = true) (now : Nat) :
    s.serve now t l = t.start l.unitId l.task now := if_pos h

theorem serve_of_not_admits {t : Scheduler} (h : s.admits l = false) (now : Nat) :
    s.serve now t l = t.setStatus l.unitId .pending := if_neg (by simp [h])

theorem gate_congr (complete : ∀ id, s'.graph.isComplete id = s.graph.isComplete id)
    (budget : s'.budget = s.budget) (u : WorkUnit) (task : LaunchTask) :
    s'.gate u task = s.gate u task := by
  have unmet : s'.graph.unmetOf u = s.graph.unmetOf u :=
    List.filter_congr fun id _ => by rw [complete]
  rw [gate, gate, unmet, budget]

end Scheduler

namespace Session

variable {σ : Type} [Storage σ] {m n n' s t : Session σ} {e : Event} {es : List Event}
  {calls : List (Call σ)} {v v' w : σ} {k : Nat} {l : QueuedLaunch} {ls served rest : List QueuedLaunch}
  {as given : List Admission}

/-! ### The queue stays in order -/

theorem Step.inOrder (h : Step m e n) (hm : m.scheduler.queue.InOrder) :
    n.scheduler.queue.InOrder := by
  cases h with
  | split live idle free accepted =>
      rw [foldl_log_scheduler]
      exact hm
  | withdraw live idle found => exact hm.remove? found
  | reinstate live idle found => exact (hm.remove? found).requeue _
  | enqueue live idle gate full behind => exact hm.enqueue _ _ _
  | promote room pop live queued gate read => exact hm.pop? pop
  | demote room pop live queued gate => exact hm.pop? pop
  | drop pop stale => exact hm.pop? pop
  | stall room pop live queued gate read => exact (hm.pop? pop).requeue _
  | retry live status slot tries => exact hm.enqueue _ _ _
  | _ => exact hm

theorem Run.inOrder (run : Run s calls t) (opened : Opened s) : t.scheduler.queue.InOrder :=
  run.invariant (P := fun m => m.scheduler.queue.InOrder) (fun _ _ _ step => step.inOrder)
    (fun _ _ _ h => h) (opened.started.queue ▸ AdmissionQueue.inOrder_empty)

/-! ### Launches that get a slot -/

/-- The launches get slots one after the other, with tickets from `k` on. Each unit goes on from its
latest checkpoint, which is read from the storage. -/
inductive Handed (g : Graph) : σ → Nat → List QueuedLaunch → List Admission → σ → Prop
  | nil (v : σ) (k : Nat) : Handed g v k [] [] v
  | cons {v w v' : σ} {k : Nat} {l : QueuedLaunch} {u : WorkUnit} {latest : Option Checkpoint}
      {ls : List QueuedLaunch} {as : List Admission} (live : g.unit? l.unitId = some u)
      (read : Storage.latest? l.unitId v = (.ok latest, w)) (rest : Handed g w (k + 1) ls as v') :
      Handed g v k (l :: ls)
        (⟨{ u with status := .running }, l.task, latest.map (·.resume), k⟩ :: as) v'

theorem Handed.snoc {g : Graph} {u : WorkUnit} {latest : Option Checkpoint}
    (h : Handed g v k ls as w) (live : g.unit? l.unitId = some u)
    (read : Storage.latest? l.unitId w = (.ok latest, v')) :
    Handed g v k (ls ++ [l]) (as ++ [⟨{ u with status := .running }, l.task,
      latest.map (·.resume), k + as.length⟩]) v' := by
  induction h with
  | nil => exact .cons live read (.nil _ _)
  | cons live' read' rest ih =>
      have later := ih read
      rw [Nat.add_assoc, Nat.add_comm 1] at later
      exact .cons live' read' later

theorem Handed.tickets {g : Graph} (h : Handed g v k ls as w) :
    as.map (·.ticket) = List.range' k as.length := by
  induction h with
  | nil => rfl
  | cons live read rest ih => exact congrArg (_ :: ·) ih

theorem Handed.length {g : Graph} (h : Handed g v k ls as w) : as.length = ls.length := by
  induction h with
  | nil => rfl
  | cons live read rest ih => exact congrArg (· + 1) ih

/-! ### Launches that are taken from the queue -/

/-- Of the launches that wait in `m`, those `served` were taken, one after the other, and those in
`rest` still wait in `n`. Each was served as `m` decides, while a slot was free. The admissions are
those of the slots that were given, for which the storage was read until it was `v`. -/
structure Served (m n : Session σ) (v : σ) (given : List Admission)
    (served rest : List QueuedLaunch) : Prop where
  line : m.scheduler.queue.entries = served ++ rest
  left : n.scheduler.queue.entries = rest
  waiting : ∀ l ∈ served, ∃ u, m.scheduler.graph.unit? l.unitId = some u ∧ u.status = .queued
  nextSeq : n.scheduler.queue.nextSeq = m.scheduler.queue.nextSeq
  outcome : n.scheduler = { served.foldl (m.scheduler.serve m.clock) m.scheduler with
    queue := n.scheduler.queue }
  trail : n.trail = m.trail ++ served.map m.scheduler.verdict
  clock : n.clock = m.clock
  handed : Handed m.scheduler.graph m.storage m.scheduler.nextTicket
    (served.filter m.scheduler.admits) given v
  room : ∀ i < served.length,
    m.scheduler.running.size + ((served.take i).filter m.scheduler.admits).length <
      m.scheduler.limits.concurrency.toNat
  slots : n.scheduler.running.size = m.scheduler.running.size + given.length
  nextTicket : n.scheduler.nextTicket = m.scheduler.nextTicket + given.length
  others : ∀ id, (∀ l ∈ served, l.unitId ≠ id) →
    n.scheduler.graph.unit? id = m.scheduler.graph.unit? id
  complete : ∀ id, n.scheduler.graph.isComplete id = m.scheduler.graph.isComplete id
  budget : n.scheduler.budget = m.scheduler.budget
  limits : n.scheduler.limits = m.scheduler.limits

theorem Served.none (m : Session σ) : Served m m m.storage [] [] m.scheduler.queue.entries where
  line := rfl
  left := rfl
  waiting := by simp
  nextSeq := rfl
  outcome := rfl
  trail := (List.append_nil _).symm
  clock := rfl
  handed := .nil _ _
  room := by simp
  slots := rfl
  nextTicket := rfl
  others _ _ := rfl
  complete _ := rfl
  budget := rfl
  limits := rfl

/-- The first launch that is left, and what `m` decides about it. -/
theorem Served.next (h : Served m n v given served rest) (km : m.scheduler.Kept)
    (kn : n.scheduler.Kept) (ordered : n.scheduler.queue.InOrder) {queue : AdmissionQueue}
    {u : WorkUnit} (pop : n.scheduler.queue.pop? = some (l, queue))
    (live : n.scheduler.graph.unit? l.unitId = some u) :
    rest = l :: queue.entries ∧ m.scheduler.graph.unit? l.unitId = some u ∧
      m.scheduler.gate u l.task = n.scheduler.gate u l.task := by
  have first := ordered.entries_pop? kn.queue.numbered pop
  have hrest : rest = l :: queue.entries := h.left.symm.trans first
  have once := km.queue.once
  rw [h.line, hrest, List.map_append, List.map_cons] at once
  have other (l' : QueuedLaunch) (hl' : l' ∈ served) : l'.unitId ≠ l.unitId :=
    (List.nodup_append.1 once).2.2 _ (List.mem_map_of_mem hl') _ List.mem_cons_self
  exact ⟨hrest, (h.others _ other).symm.trans live,
    (Scheduler.gate_congr h.complete h.budget u l.task).symm⟩

/-- One more launch is served. -/
theorem Served.snoc (h : Served m n v given served (l :: rest)) (queue : AdmissionQueue)
    (status : Status) {u : WorkUnit} {new : List Admission}
    (left : queue.entries = rest) (nextSeq : queue.nextSeq = n.scheduler.queue.nextSeq)
    (room : n.scheduler.isFull = false)
    (live : n.scheduler.graph.unit? l.unitId = some u)
    (live' : m.scheduler.graph.unit? l.unitId = some u) (queued : u.status = .queued)
    (served' : n'.scheduler = { m.scheduler.serve m.clock n.scheduler l with queue })
    (graph : n'.scheduler.graph = n.scheduler.graph.setStatus l.unitId status)
    (incomplete : status ≠ .complete) (trail : n'.trail = n.trail ++ [m.scheduler.verdict l])
    (clock : n'.clock = n.clock)
    (handed : Handed m.scheduler.graph m.storage m.scheduler.nextTicket
      ((served ++ [l]).filter m.scheduler.admits) (given ++ new) w)
    (slots : n'.scheduler.running.size = n.scheduler.running.size + new.length)
    (nextTicket : n'.scheduler.nextTicket = n.scheduler.nextTicket + new.length)
    (budget : n'.scheduler.budget = n.scheduler.budget)
    (limits : n'.scheduler.limits = n.scheduler.limits) :
    Served m n' w (given ++ new) (served ++ [l]) rest where
  line := h.line.trans (List.append_cons served l rest)
  left := by rw [served']; exact left
  waiting := List.forall_mem_append.2 ⟨h.waiting, List.forall_mem_singleton.2 ⟨u, live', queued⟩⟩
  nextSeq := by rw [served']; exact nextSeq.trans h.nextSeq
  outcome := by
    have same (t : Scheduler) (q : AdmissionQueue) :
        { m.scheduler.serve m.clock { t with queue := q } l with queue } =
          { m.scheduler.serve m.clock t l with queue } := by
      unfold Scheduler.serve
      split <;> rfl
    rw [served', h.outcome, same, List.foldl_concat]
  trail := by rw [trail, h.trail, List.append_assoc, List.map_append, List.map_singleton]
  clock := clock.trans h.clock
  handed := handed
  room := by
    intro i hi
    rw [List.length_append, List.length_singleton, Nat.lt_succ_iff] at hi
    rw [List.take_append_of_le_length hi]
    rcases Nat.lt_or_eq_of_le hi with hi | rfl
    · exact h.room i hi
    · rw [List.take_length, ← h.handed.length, ← h.slots, ← h.limits]
      exact Scheduler.isFull_eq_false_iff.1 room
  slots := by rw [slots, h.slots, List.length_append, Nat.add_assoc]
  nextTicket := by rw [nextTicket, h.nextTicket, List.length_append, Nat.add_assoc]
  others id hid := by
    have hne : id ≠ l.unitId := fun he => hid l (by simp) he.symm
    rw [graph, Graph.unit?_setStatus_of_ne hne]
    exact h.others id fun l' hl' => hid l' (List.mem_append_left _ hl')
  complete id := by
    rw [graph, Graph.isComplete_setStatus live (by simp [queued]) incomplete]
    exact h.complete id
  budget := budget.trans h.budget
  limits := limits.trans h.limits

theorem Served.step (h : Served m n n.storage given served rest) (km : m.scheduler.Kept)
    (kn : n.scheduler.Kept) (ordered : n.scheduler.queue.InOrder) (step : Step n e n')
    (promotes : e.isPromotion = true) (goesOn : ∀ id, e ≠ .stall id) :
    ∃ l ls, rest = l :: ls ∧
      Served m n' n'.storage (given ++ e.admission?.toList) (served ++ [l]) ls := by
  cases step with
  | @promote l queue u latest storage room pop live queued gate read =>
      obtain ⟨rfl, live', gate'⟩ := h.next km kn ordered pop live
      have admits := (Scheduler.admits_iff live').2 (gate'.trans gate)
      have absent := kn.no_slot live (by simp [queued])
      refine ⟨l, queue.entries, rfl, ?_⟩
      refine h.snoc queue .running rfl (AdmissionQueue.pop?_entries pop).2 room
        live live' queued ?_ rfl (by simp) ?_ rfl ?_ (IdMap.size_insert absent _) rfl rfl rfl
      · rw [Scheduler.serve_of_admits admits, ← h.clock]
        rfl
      · rw [Scheduler.verdict_eq live', gate', gate]
        rfl
      · rw [List.filter_append, List.filter_singleton, admits, h.nextTicket]
        exact h.handed.snoc live' read
  | @demote l queue u action detail room pop live queued gate =>
      obtain ⟨rfl, live', gate'⟩ := h.next km kn ordered pop live
      have passed : m.scheduler.gate u l.task ≠ .passed := by
        rw [gate']
        rcases gate with ⟨_, gate, _⟩ | ⟨_, gate, _⟩ <;> simp [gate]
      have admits : m.scheduler.admits l = false := by
        rw [← Bool.not_eq_true, Scheduler.admits_iff live']
        exact passed
      refine ⟨l, queue.entries, rfl, ?_⟩
      refine h.snoc queue .pending rfl (AdmissionQueue.pop?_entries pop).2 room
        live live' queued ?_ rfl (by simp) ?_ rfl ?_ rfl rfl rfl rfl
      · rw [Scheduler.serve_of_not_admits admits]
        rfl
      · rw [Scheduler.verdict_eq live', gate']
        rcases gate with ⟨_, gate, rfl, rfl⟩ | ⟨_, gate, rfl⟩ <;> rw [gate] <;> rfl
      · have same : (served ++ [l]).filter m.scheduler.admits = served.filter m.scheduler.admits := by
          simp [admits]
        rw [same]
        exact (List.append_nil given).symm ▸ h.handed
  | drop pop stale =>
      -- Every launch in the queue is that of a unit that waits, so there is nothing to drop.
      obtain ⟨u, live, status, _⟩ :=
        kn.taken ((AdmissionQueue.pop?_entries pop).1.mem_iff.2 List.mem_cons_self)
      simp [live, status] at stale
  | stall => exact absurd rfl (goesOn _)
  | _ => cases promotes

/-- A launch that cannot get its slot stays first in the queue. -/
theorem Served.stall {id : UnitId} (h : Served m n n.storage given served rest) (km : m.scheduler.Kept)
    (kn : n.scheduler.Kept) (ordered : n.scheduler.queue.InOrder) (step : Step n (.stall id) n') :
    Served m n' n.storage given served rest ∧ n'.scheduler.isFull = false ∧ ∃ l ls refusal,
      rest = l :: ls ∧ m.scheduler.admits l = true ∧
        Storage.latest? l.unitId n.storage = (.error refusal, n'.storage) := by
  cases step with
  | @stall l queue u refusal storage room pop live queued gate read =>
      obtain ⟨rfl, live', gate'⟩ := h.next km kn ordered pop live
      have admits := (Scheduler.admits_iff live').2 (gate'.trans gate)
      refine ⟨{ h with left := ?_, nextSeq := ?_, outcome := ?_ }, room, l, queue.entries, refusal, rfl,
        admits, read⟩
      · exact (AdmissionQueue.entries_requeue_pop kn.queue.numbered pop).trans h.left
      · exact (AdmissionQueue.pop?_entries pop).2.trans h.nextSeq
      · exact congrArg (fun s : Scheduler => { s with queue := queue.requeue l }) h.outcome

/-- Why no launch is taken any more: no slot is free, none waits, or the unit's checkpoints cannot be
read. -/
inductive Stops (m n : Session σ) (v : σ) : List QueuedLaunch → Prop
  | full {rest : List QueuedLaunch} (full : n.scheduler.isFull = true) (storage : n.storage = v) :
      Stops m n v rest
  | exhausted (storage : n.storage = v) : Stops m n v []
  | stalled {l : QueuedLaunch} {rest : List QueuedLaunch} {refusal : Refusal}
      (room : n.scheduler.isFull = false) (admits : m.scheduler.admits l = true)
      (read : Storage.latest? l.unitId v = (.error refusal, n.storage)) : Stops m n v (l :: rest)

theorem promoteUpTo_served (km : m.scheduler.Kept) (count : Nat)
    (h : Served m n n.storage given served rest) (kn : n.scheduler.Kept)
    (ordered : n.scheduler.queue.InOrder) (enough : rest.length = count) :
    ∃ more n' v served' rest', (Op.promoteUpTo count).run n = (.ok more, n') ∧
      Served m n' v (given ++ more) served' rest' ∧ Stops m n' v rest' := by
  induction count generalizing n given served rest with
  | zero =>
      obtain rfl := List.length_eq_zero_iff.1 enough
      refine ⟨[], n, n.storage, served, [], rfl, ?_, .exhausted rfl⟩
      rwa [List.append_nil]
  | succ count ih =>
      obtain ⟨stops, hrun⟩ | ⟨e, t, step, promotes, ⟨⟨id, rfl⟩, hrun⟩ | ⟨goesOn, hrun⟩⟩ :=
        Op.promoteUpTo_turn count n
      · refine ⟨[], n, n.storage, served, rest, hrun, ?_, ?_⟩
        · rwa [List.append_nil]
        · rcases stops with full | empty
          · exact .full full rfl
          · rw [← h.left, AdmissionQueue.pop?_eq_none_iff.1 empty]
            exact .exhausted rfl
      · obtain ⟨h', room, l, ls, refusal, rfl, admits, read⟩ := h.stall km kn ordered step
        refine ⟨[], t, n.storage, served, l :: ls, hrun, ?_, .stalled room admits read⟩
        rwa [List.append_nil]
      · obtain ⟨l, ls, rfl, h'⟩ := h.step km kn ordered step promotes goesOn
        obtain ⟨more, n', v, served', rest', hmore, hserved, stops⟩ :=
          ih h' (step.kept kn) (step.inOrder ordered) (Nat.succ.inj enough)
        refine ⟨_, n', v, served', rest', hrun more n' hmore, ?_, stops⟩
        rwa [← List.append_assoc]

/-- When slots are filled, launches are taken from the queue as it is listed, until no slot is free,
none waits, or a checkpoint cannot be read. -/
theorem promote_served (km : m.scheduler.Kept) (ordered : m.scheduler.queue.InOrder) :
    ∃ given n v served rest, Op.promote.run m = (.ok given, n) ∧ Served m n v given served rest ∧
      Stops m n v rest :=
  promoteUpTo_served km m.scheduler.queue.size (.none m) km ordered
    (AdmissionQueue.size_eq_length _).symm

end Session

end BuildAdmission
