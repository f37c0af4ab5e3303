import BuildAdmission.Proofs.Session.Filling
import BuildAdmission.Proofs.Storage.Keeping

namespace BuildAdmission

namespace Graph

variable {g g' : Graph} {logs logs' : UnitId → List Checkpoint} {l : QueuedLaunch}
  {ls : List QueuedLaunch} {u : WorkUnit}

/-- The admissions of launches that get slots one after the other, with tickets from `k` on. Each
unit goes on from the last checkpoint of its log. -/
def handOut (g : Graph) (logs : UnitId → List Checkpoint) (k : Nat) (ls : List QueuedLaunch) :
    List Admission :=
  (ls.zipIdx k).filterMap fun (l, ticket) => (g.unit? l.unitId).map fun u =>
    ⟨{ u with status := .running }, l.task, (logs l.unitId).getLast?.map (·.resume), ticket⟩

theorem handOut_cons (live : g.unit? l.unitId = some u) (k : Nat) (ls : List QueuedLaunch) :
    g.handOut logs k (l :: ls) =
      ⟨{ u with status := .running }, l.task, (logs l.unitId).getLast?.map (·.resume), k⟩ ::
        g.handOut logs (k + 1) ls := by
  rw [handOut, List.zipIdx_cons]
  exact List.filterMap_cons_some (by simp only [live, Option.map_some])

theorem handOut_congr (units : ∀ l ∈ ls, g'.unit? l.unitId = g.unit? l.unitId)
    (same : ∀ l ∈ ls, logs' l.unitId = logs l.unitId) (k : Nat) :
    g'.handOut logs' k ls = g.handOut logs k ls := by
  refine List.filterMap_congr ?_
  rintro ⟨l, ticket⟩ hp
  have hl := List.fst_mem_of_mem_zipIdx hp
  simp only [units l hl, same l hl]

end Graph

namespace Scheduler

variable {m m' n n' s t t' : Scheduler} {logs logs' : UnitId → List Checkpoint} {a b : UnitId}
  {x y : Status} {l : QueuedLaunch} {ls served served' : List QueuedLaunch}
  {given given' : List Admission}

/-! ### Schedulers that say the same -/

/-- Who runs, with which task and under which ticket. -/
def slots (s : Scheduler) : IdMap (LaunchTask × Nat) :=
  s.running.mapValues fun _ r => (r.task, r.ticket)

/-- The same in both, up to the moments of the last signs of life: the units, the slots with their
tickets, and the queue as it will be served. -/
structure Agrees (s t : Scheduler) : Prop where
  limits : t.limits = s.limits
  graph : t.graph = s.graph
  budget : t.budget = s.budget
  entries : t.queue.entries = s.queue.entries
  nextSeq : t.queue.nextSeq = s.queue.nextSeq
  slots : t.slots = s.slots
  nextTicket : t.nextTicket = s.nextTicket

theorem Agrees.refl (s : Scheduler) : s.Agrees s := by
  constructor <;> rfl

theorem Agrees.setStatus (h : s.Agrees t) (id : UnitId) (status : Status) :
    (s.setStatus id status).Agrees (t.setStatus id status) :=
  { h with graph := congrArg (·.setStatus id status) h.graph }

theorem slots_start (s : Scheduler) (id : UnitId) (task : LaunchTask) (now : Nat) :
    (s.start id task now).slots = s.slots.insert id (task, s.nextTicket) :=
  IdMap.mapValues_insert ..

theorem Agrees.start (h : s.Agrees t) (id : UnitId) (task : LaunchTask) (now now' : Nat) :
    (s.start id task now).Agrees (t.start id task now') :=
  { h.setStatus id .running with
    slots := by rw [slots_start, slots_start, h.slots, h.nextTicket]
    nextTicket := congrArg (· + 1) h.nextTicket }

theorem Agrees.serve (h : s.Agrees t) (admits : m'.admits l = m.admits l) (now now' : Nat) :
    (m.serve now s l).Agrees (m'.serve now' t l) := by
  rw [Scheduler.serve, Scheduler.serve, admits]
  split
  · exact h.start ..
  · exact h.setStatus ..

theorem Agrees.foldl_serve (h : s.Agrees t) (admits : ∀ l ∈ ls, m'.admits l = m.admits l)
    (now now' : Nat) : (ls.foldl (m.serve now) s).Agrees (ls.foldl (m'.serve now') t) := by
  induction ls generalizing s t with
  | nil => exact h
  | cons l ls ih =>
      obtain ⟨first, rest⟩ := List.forall_mem_cons.1 admits
      exact ih (h.serve first now now') rest

theorem Agrees.withQueue (h : s.Agrees t) {queue queue' : AdmissionQueue}
    (entries : queue'.entries = queue.entries) (nextSeq : queue'.nextSeq = queue.nextSeq) :
    { s with queue }.Agrees { t with queue := queue' } :=
  { h with entries, nextSeq }

/-! ### A slot is freed before or after others are given -/

theorem release_comm (apart : a ≠ b) (s : Scheduler) (x y : Status) :
    (s.release a x).release b y = (s.release b y).release a x := by
  simp only [release, setStatus, Graph.setStatus_comm apart, IdMap.erase_comm s.running a]

theorem serve_release (other : l.unitId ≠ b) (m t : Scheduler) (now : Nat) (y : Status) :
    (m.serve now t l).release b y = m.serve now (t.release b y) l := by
  unfold serve
  split
  · simp only [start, release, setStatus, Graph.setStatus_comm other, IdMap.erase_insert _ other]
  · simp only [release, setStatus, Graph.setStatus_comm other]

theorem foldl_serve_release (others : ∀ l ∈ ls, l.unitId ≠ b) (m t : Scheduler) (now : Nat)
    (y : Status) : (ls.foldl (m.serve now) t).release b y =
      ls.foldl (m.serve now) (t.release b y) := by
  induction ls generalizing t with
  | nil => rfl
  | cons l ls ih =>
      obtain ⟨first, rest⟩ := List.forall_mem_cons.1 others
      rw [List.foldl_cons, List.foldl_cons, ih rest, serve_release first]

/-! ### Free slots are filled -/

/-- The free slots of `m` were filled until none was free or no launch waited, which led to `t`. Of
the launches that waited those `served` were taken, as `m` decides. -/
structure Refill (m : Scheduler) (logs : UnitId → List Checkpoint) (served : List QueuedLaunch)
    (given : List Admission) (t : Scheduler) : Prop where
  line : m.queue.entries = served ++ t.queue.entries
  nextSeq : t.queue.nextSeq = m.queue.nextSeq
  outcome : ∃ now, t = { served.foldl (m.serve now) m with queue := t.queue }
  given : given = m.graph.handOut logs m.nextTicket (served.filter m.admits)
  room : ∀ i < served.length, m.running.size + ((served.take i).filter m.admits).length <
    m.limits.concurrency.toNat
  done : t.queue.entries = [] ∨
    m.limits.concurrency.toNat ≤ m.running.size + (served.filter m.admits).length

/-- What two schedulers have in common that fill their free slots alike. -/
structure FillsAlike (m m' : Scheduler) : Prop where
  limits : m'.limits = m.limits
  line : m'.queue.entries = m.queue.entries
  nextSeq : m'.queue.nextSeq = m.queue.nextSeq
  size : m'.running.size = m.running.size
  nextTicket : m'.nextTicket = m.nextTicket
  units : ∀ l ∈ m.queue.entries, m'.graph.unit? l.unitId = m.graph.unit? l.unitId
  admits : ∀ l ∈ m.queue.entries, m'.admits l = m.admits l

theorem FillsAlike.symm (h : m.FillsAlike m') : m'.FillsAlike m where
  limits := h.limits.symm
  line := h.line.symm
  nextSeq := h.nextSeq.symm
  size := h.size.symm
  nextTicket := h.nextTicket.symm
  units l hl := (h.units l (h.line ▸ hl)).symm
  admits l hl := (h.admits l (h.line ▸ hl)).symm

theorem Agrees.fillsAlike (h : s.Agrees t) : s.FillsAlike t where
  limits := h.limits
  line := h.entries
  nextSeq := h.nextSeq
  size := by
    have size := congrArg IdMap.size h.slots
    rwa [Scheduler.slots, Scheduler.slots, IdMap.size_mapValues, IdMap.size_mapValues] at size
  nextTicket := h.nextTicket
  units l _ := by rw [h.graph]
  admits l _ := by rw [admits, admits, h.graph, h.budget]

theorem Refill.admits_eq (h : m.Refill logs served given t) (alike : m.FillsAlike m') :
    ∀ l ∈ served, m'.admits l = m.admits l := by
  intro l hl
  refine alike.admits l ?_
  rw [h.line]
  exact List.mem_append_left _ hl

/-- Launches are taken as long as there is room, so no fewer are taken than by another. -/
theorem Refill.not_shorter {more : List QueuedLaunch} (h : m.Refill logs served given t)
    (h' : m'.Refill logs' (served ++ l :: more) given' t') (alike : m.FillsAlike m') : False := by
  have free := h'.room served.length (by simp)
  rw [List.take_left, List.filter_congr (h.admits_eq alike), alike.size, alike.limits] at free
  rcases h.done with none | full
  · have line := h.line.symm.trans (alike.line.symm.trans h'.line)
    rw [none] at line
    simp at line
  · exact Nat.not_le.2 free full

theorem Refill.served_eq (h : m.Refill logs served given t) (h' : m'.Refill logs' served' given' t')
    (alike : m.FillsAlike m') : served' = served := by
  rcases List.append_eq_append_iff.1 (h.line.symm.trans (alike.line.symm.trans h'.line)) with
    ⟨more, longer, _⟩ | ⟨more, longer, _⟩
  · cases more with
    | nil => rw [longer, List.append_nil]
    | cons l more => exact (h.not_shorter (longer ▸ h') alike).elim
  · cases more with
    | nil => rw [longer, List.append_nil]
    | cons l more => exact (h'.not_shorter (longer ▸ h) alike.symm).elim

/-- The same launches are taken, and the same admissions are made of them. -/
theorem Refill.same (h : m.Refill logs served given t) (h' : m'.Refill logs' served' given' t')
    (alike : m.FillsAlike m') (read : ∀ l ∈ m.queue.entries, logs' l.unitId = logs l.unitId) :
    served' = served ∧ given' = given := by
  obtain rfl := h.served_eq h' alike
  refine ⟨rfl, ?_⟩
  have waited (l : QueuedLaunch) (hl : l ∈ served'.filter m.admits) : l ∈ m.queue.entries := by
    rw [h.line]
    exact List.mem_append_left _ (List.mem_filter.1 hl).1
  rw [h'.given, h.given, List.filter_congr (h.admits_eq alike), alike.nextTicket]
  exact Graph.handOut_congr (fun l hl => alike.units l (waited l hl))
    (fun l hl => read l (waited l hl)) _

theorem Refill.entries_eq (h : m.Refill logs served given t) (h' : m'.Refill logs' served given' t')
    (alike : m.FillsAlike m') : t'.queue.entries = t.queue.entries :=
  List.append_cancel_left (h'.line.symm.trans (alike.line.trans h.line))

theorem Refill.agrees (h : m.Refill logs served given t) (h' : m'.Refill logs' served given' t')
    (same : m.Agrees m') : t.Agrees t' := by
  obtain ⟨now, after⟩ := h.outcome
  obtain ⟨now', after'⟩ := h'.outcome
  rw [after, after']
  exact (same.foldl_serve (h.admits_eq same.fillsAlike) now now').withQueue
    (h.entries_eq h' same.fillsAlike) (h'.nextSeq.trans (same.nextSeq.trans h.nextSeq.symm))

/-! ### Two slots are freed, in either order -/

section

variable (kept : s.Kept)
include kept

theorem Kept.apart (running : ∃ u, s.graph.unit? a = some u ∧ u.status = .running)
    (hl : l ∈ s.queue.entries) : l.unitId ≠ a := by
  rintro rfl
  obtain ⟨u, live, queued, _⟩ := kept.taken hl
  obtain ⟨v, live', runs⟩ := running
  cases live.symm.trans live'
  cases queued.symm.trans runs

/-- The end of a run does not matter for a launch that waits for nothing but a slot. -/
theorem Kept.admits_release (running : ∃ u, s.graph.unit? a = some u ∧ u.status = .running)
    (ready : ∀ id u, s.graph.unit? id = some u → u.status = .queued → s.graph.unmetOf u = [])
    (x : Status) (hl : l ∈ s.queue.entries) : (s.release a x).admits l = s.admits l := by
  obtain ⟨u, live, queued, _⟩ := kept.taken hl
  have live' : (s.release a x).graph.unit? l.unitId = some u :=
    (Graph.unit?_setStatus_of_ne (kept.apart running hl) ..).trans live
  have met := ready _ u live queued
  have met' : (s.release a x).graph.unmetOf u = [] := by
    rw [Graph.unmetOf_eq_nil_iff] at met ⊢
    intro d hd
    obtain ⟨v, hv, complete⟩ := met d hd
    have other : d ≠ a := by
      rintro rfl
      obtain ⟨w, hw, runs⟩ := running
      cases hv.symm.trans hw
      cases complete.symm.trans runs
    exact ⟨v, (Graph.unit?_setStatus_of_ne other ..).trans hv, complete⟩
  rw [admits, admits, live, live', Option.any_some, Option.any_some, met, met']
  rfl

variable (runsA : ∃ u, s.graph.unit? a = some u ∧ u.status = .running)
  (runsB : ∃ u, s.graph.unit? b = some u ∧ u.status = .running)
  (ready : ∀ id u, s.graph.unit? id = some u → u.status = .queued → s.graph.unmetOf u = [])
include runsA runsB ready

theorem Kept.fillsAlike_release (x y : Status) : (s.release a x).FillsAlike (s.release b y) where
  limits := rfl
  line := rfl
  nextSeq := rfl
  size := by
    obtain ⟨_, slotA⟩ := kept.running_iff.2 runsA
    obtain ⟨_, slotB⟩ := kept.running_iff.2 runsB
    exact Nat.succ.inj ((IdMap.size_erase slotB).trans (IdMap.size_erase slotA).symm)
  nextTicket := rfl
  units l hl := (Graph.unit?_setStatus_of_ne (kept.apart runsB hl) ..).trans
    (Graph.unit?_setStatus_of_ne (kept.apart runsA hl) ..).symm
  admits l hl := (kept.admits_release runsB ready y hl).trans
    (kept.admits_release runsA ready x hl).symm

/-- Two units give up their slots. Whichever is the first, the same launches get the first slots and
the same launches get those that follow. -/
theorem Refill.commute {logs₁ logs₂ logs₁' logs₂' : UnitId → List Checkpoint}
    {served₁ served₂ served₁' served₂' : List QueuedLaunch}
    {given₁ given₂ given₁' given₂' : List Admission} (apart : a ≠ b)
    (first : (s.release a x).Refill logs₁ served₁ given₁ n)
    (second : (n.release b y).Refill logs₂ served₂ given₂ t)
    (first' : (s.release b y).Refill logs₁' served₁' given₁' n')
    (second' : (n'.release a x).Refill logs₂' served₂' given₂' t')
    (read₁ : ∀ l ∈ s.queue.entries, logs₁' l.unitId = logs₁ l.unitId)
    (read₂ : ∀ l ∈ s.queue.entries, logs₂' l.unitId = logs₂ l.unitId) :
    given₁' = given₁ ∧ given₂' = given₂ ∧ t.Agrees t' := by
  have alike := kept.fillsAlike_release runsA runsB ready x y
  obtain ⟨rfl, rfl⟩ := first.same first' alike read₁
  have waited (l : QueuedLaunch) (hl : l ∈ served₁') : l ∈ s.queue.entries := by
    rw [show s.queue.entries = _ from first.line]
    exact List.mem_append_left _ hl
  have between : (n.release b y).Agrees (n'.release a x) := by
    obtain ⟨now, after⟩ := first.outcome
    obtain ⟨now', after'⟩ := first'.outcome
    have freed := congrArg (·.release b y) after
    have freed' := congrArg (·.release a x) after'
    -- As far as the units that were served go, the second slot might have been freed first.
    have early := foldl_serve_release (fun l hl => kept.apart runsB (waited l hl))
      (s.release a x) (s.release a x) now y
    have early' := foldl_serve_release (fun l hl => kept.apart runsA (waited l hl))
      (s.release b y) (s.release b y) now' x
    rw [release_comm apart.symm] at early'
    have served := (Agrees.refl ((s.release a x).release b y)).foldl_serve
      (first.admits_eq alike) now now'
    rw [← early, ← early'] at served
    have waiting : n'.queue.entries = n.queue.entries := first.entries_eq first' alike
    have nextSeq : n'.queue.nextSeq = n.queue.nextSeq := first'.nextSeq.trans first.nextSeq.symm
    rw [freed, freed']
    exact served.withQueue waiting nextSeq
  have rest (l : QueuedLaunch) (hl : l ∈ (n.release b y).queue.entries) :
      l ∈ s.queue.entries := by
    rw [show s.queue.entries = _ from first.line]
    exact List.mem_append_right _ hl
  obtain ⟨rfl, rfl⟩ := second.same second' between.fillsAlike fun l hl => read₂ l (rest l hl)
  exact ⟨rfl, rfl, second.agrees second' between⟩

end

end Scheduler

namespace Session

variable {σ : Type} [Storage σ] {good : σ → Prop} {stored : σ → UnitId → List Checkpoint}
  {m n : Session σ} {v w : σ} {k : Nat} {ls served rest : List QueuedLaunch} {given : List Admission}

theorem Handed.handOut {g : Graph} (legible : Storage.Legible good stored)
    (h : Handed g v k ls given w) (hv : good v) : given = g.handOut (stored v) k ls := by
  induction h with
  | nil => rfl
  | @cons v w v' k l u latest ls as live read rest ih =>
      obtain ⟨hw, same⟩ := legible.read read hv
      have newest := legible.newest v l.unitId latest hv (congrArg Prod.fst read)
      rw [Graph.handOut_cons live, newest, ih hw, same]

theorem Served.spares {id : UnitId} {u : WorkUnit} (h : Served m n v given served rest)
    (live : m.scheduler.graph.unit? id = some u) (idle : u.status ≠ .queued) :
    n.scheduler.graph.unit? id = some u := by
  refine (h.others id ?_).trans live
  rintro l hl rfl
  obtain ⟨w, live', queued⟩ := h.waiting l hl
  cases live.symm.trans live'
  exact idle queued

/-- If no launch is put back then the free slots are filled. -/
theorem Served.refill (legible : Storage.Legible good stored) (h : Served m n v given served rest)
    (hm : good m.storage) (done : n.scheduler.isFull = true ∨ rest = []) :
    m.scheduler.Refill (stored m.storage) served given n.scheduler where
  line := by rw [h.left, h.line]
  nextSeq := h.nextSeq
  outcome := ⟨m.clock, h.outcome⟩
  given := h.handed.handOut legible hm
  room := h.room
  done := by
    rcases done with full | none
    · rw [← h.handed.length, ← h.slots, ← h.limits]
      exact .inr (of_decide_eq_true full)
    · exact .inl (h.left.trans none)

end Session

end BuildAdmission
