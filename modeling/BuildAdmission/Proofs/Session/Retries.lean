import BuildAdmission.Proofs.Session.Frame
import BuildAdmission.Proofs.Session.Lifecycle
import BuildAdmission.Proofs.Session.Trail

namespace BuildAdmission

/-- The tries of a unit since it was taken in or reset: the retries that it was taken in with, and
the failures since. -/
structure Tally where
  start : UInt32
  failures : Nat
  deriving DecidableEq

/-- How a unit stands after its tries, if a failure is retried while there are fewer retries than
the limit. -/
structure Tried (limit : UInt32) (k : Tally) (u : WorkUnit) : Prop where
  retries : u.retryCount.toNat = k.start.toNat + min k.failures (limit.toNat - k.start.toNat)
  bounded : k.failures ≤ limit.toNat - k.start.toNat + 1
  spent : 0 < k.failures → (u.status = .failed ↔ limit.toNat - k.start.toNat < k.failures)

namespace Tried

variable {limit : UInt32} {k : Tally} {u v : WorkUnit}

theorem fresh (limit : UInt32) (u : WorkUnit) : Tried limit ⟨u.retryCount, 0⟩ u :=
  ⟨by simp, by simp, by simp⟩

theorem moved (h : Tried limit k u) (old : u.status ≠ .failed) {status : Status}
    (new : status ≠ .failed) : Tried limit k { u with status } :=
  ⟨h.retries, h.bounded, fun tried => (iff_of_false new old).trans (h.spent tried)⟩

/-- What runs has not used up its retries. -/
theorem left (h : Tried limit k u) (runs : u.status = .running) :
    k.failures ≤ limit.toNat - k.start.toNat := by
  by_contra more
  have failed := (h.spent (by omega)).2 (by omega)
  cases runs.symm.trans failed

theorem retry (h : Tried limit k u) (runs : u.status = .running) (tries : u.retryCount < limit)
    (counted : v.retryCount.toNat = u.retryCount.toNat + 1) (waits : v.status = .queued) :
    Tried limit ⟨k.start, k.failures + 1⟩ v := by
  have left := h.left runs
  have below := UInt32.lt_iff_toNat_lt.1 tries
  have retries := h.retries
  refine ⟨?_, ?_, fun _ => ?_⟩
  · simp only
    omega
  · simp only
    omega
  · simp only [waits, reduceCtorEq, false_iff]
    omega

theorem fail (h : Tried limit k u) (runs : u.status = .running) (tries : ¬ u.retryCount < limit)
    (same : v.retryCount = u.retryCount) (failed : v.status = .failed) :
    Tried limit ⟨k.start, k.failures + 1⟩ v := by
  have left := h.left runs
  rw [UInt32.lt_iff_toNat_lt] at tries
  have retries := h.retries
  refine ⟨?_, ?_, fun _ => ?_⟩
  · simp only [same]
    omega
  · simp only
    omega
  · simp only [failed, true_iff]
    omega

theorem le_max (h : Tried limit k u) : u.retryCount.toNat ≤ max k.start.toNat limit.toNat := by
  have retries := h.retries
  omega

end Tried

namespace Event

/-- What an event adds to the tries of a unit. -/
def tally (id : UnitId) (k : Tally) : Event → Tally
  | retry i | fail i => if i = id then ⟨k.start, k.failures + 1⟩ else k
  | reset i => if i = id then ⟨0, 0⟩ else k
  | register u => if u.id = id then ⟨u.retryCount, 0⟩ else k
  | split plan => if id ∈ plan.partIds then ⟨0, 0⟩ else k
  | _ => k

variable {e : Event} {es : List Event} {id : UnitId}

theorem tally_of_spared (apart : id ∉ e.subjects) (k : Tally) : e.tally id k = k := by
  cases e with
  | split plan => exact if_neg fun part => apart (List.mem_cons_of_mem _ part)
  | retry | fail | reset | register => exact if_neg fun same => apart (List.mem_singleton.2 same.symm)
  | _ => rfl

theorem tally_of_isPromotion (h : e.isPromotion = true) (k : Tally) : e.tally id k = k := by
  cases e <;> first | rfl | cases h

theorem foldl_tally_eq (h : ∀ e ∈ es, ∀ k, e.tally id k = k) (k : Tally) :
    es.foldl (Event.tally id) k = k :=
  List.foldlRecOn es (Event.tally id) (motive := (· = k)) rfl fun k' same e he =>
    (h e he k').trans same

end Event

namespace Call

variable {σ : Type}

/-- The retries with which the call lets the tries of the unit begin. -/
def rearms (c : Call σ) (id : UnitId) : Option UInt32 :=
  match c.command, c.answer with
  | .resetFailed k, .ok _ => if k = id then some 0 else none
  | _, _ => (c.registers id).map (·.retryCount)

/-- The units whose run fails in the call: the one that it is told of, or those that were silent for
too long. -/
def failures (c : Call σ) : List UnitId :=
  match c.command, c.answer with
  | .failed id _, .ok _ => [id]
  | .applyOutcome id _ (.failed _), .ok (.ended (some _)) => [id]
  | .expireIdle now, .ok _ => Op.idleAt c.before.scheduler now
  | _, _ => []

def tally (id : UnitId) (k : Tally) (c : Call σ) : Tally :=
  match c.rearms id with
  | some start => ⟨start, 0⟩
  | none => ⟨k.start, k.failures + c.failures.count id⟩

variable {c : Call σ} {id i : UnitId}

theorem tally_of_error {refusal : Refusal} (refused : c.answer = .error refusal) (k : Tally) :
    c.tally id k = k := by
  obtain ⟨before, command, answer, after⟩ := c
  cases refused
  cases command with
  | applyOutcome _ _ outcome => cases outcome <;> rfl
  | _ => rfl

theorem tally_of_failures (rearms : c.rearms id = none) (failures : c.failures = [i]) (k : Tally) :
    c.tally id k = if i = id then ⟨k.start, k.failures + 1⟩ else k := by
  rw [tally, rearms, failures]
  by_cases hi : i = id <;> simp [hi]

end Call

namespace Session

open BuildAdmission.Graph Event

variable {σ : Type} [Storage σ] {m n s t : Session σ} {e : Event} {es : List Event} {c : Command}
  {calls : List (Call σ)} {id : UnitId} {limit : UInt32} {k : Tally} {u v : WorkUnit}

/-! ### The tries of a unit over its events -/

/-- A failure is retried while there are fewer retries than the limit. -/
theorem Step.tries (h : Step m e n) (live : m.scheduler.graph.unit? id = some u) :
    (e = .retry id → u.retryCount < m.scheduler.limits.maxRetries) ∧
      (e = .fail id → ¬ u.retryCount < m.scheduler.limits.maxRetries) := by
  constructor
  · rintro rfl
    cases h with
    | retry live' status slot tries =>
        cases live.symm.trans live'
        exact tries
  · rintro rfl
    cases h with
    | fail live' status slot tries =>
        cases live.symm.trans live'
        exact tries

/-- The unit, if it is there, has the retries that its tries have led to. -/
def Tallied (limit : UInt32) (k : Tally) (unit : Option WorkUnit) : Prop :=
  ∀ u, unit = some u → Tried limit k u

theorem Step.tallied (h : Step m e n) (kept : m.scheduler.Kept)
    (hm : Tallied m.scheduler.limits.maxRetries k (m.scheduler.graph.unit? id)) :
    Tallied m.scheduler.limits.maxRetries (e.tally id k) (n.scheduler.graph.unit? id) := by
  have tries (u : WorkUnit) (live : m.scheduler.graph.unit? id = some u) := h.tries live
  have absent (brings : e.Brings id) : m.scheduler.graph.unit? id = none :=
    (isTaken_eq_false_iff.1 (h.brings kept brings).1).1
  obtain ⟨notes, alters, _⟩ := h.alters kept id
  generalize m.scheduler.graph.unit? id = old at hm tries absent alters
  generalize n.scheduler.graph.unit? id = new at alters
  cases alters with
  | spared apart =>
      rw [tally_of_spared apart]
      exact hm
  | @registered u named =>
      rintro _ ⟨⟩
      rw [tally, if_pos named]
      exact .fresh _ { u with archived := false }
  | @parted plan u whole part named =>
      rintro _ ⟨⟩
      rw [tally, if_pos (mem_partIds.2 ⟨u, part, named⟩)]
      exact .fresh _ (partOf whole u)
  | @reset u =>
      rintro _ ⟨⟩
      rw [tally, if_pos rfl]
      exact .fresh _ { u with status := .pending, retryCount := 0 }
  | retried runs counted =>
      rintro _ ⟨⟩
      rw [tally, if_pos rfl]
      exact (hm _ rfl).retry runs ((tries _ rfl).1 rfl) counted rfl
  | failed runs =>
      rintro _ ⟨⟩
      rw [tally, if_pos rfl]
      exact (hm _ rfl).fail runs ((tries _ rfl).2 rfl) rfl rfl
  | archived | replaced => exact nofun
  | @rewired plan =>
      rintro _ ⟨⟩
      have old : id ∉ plan.partIds := fun part => nomatch absent part
      rw [tally, if_neg old]
      obtain ⟨retries, bounded, spent⟩ := hm _ rfl
      exact ⟨retries, bounded, spent⟩
  | connected | resized | prioritised | refused =>
      rintro _ ⟨⟩
      obtain ⟨retries, bounded, spent⟩ := hm _ rfl
      exact ⟨retries, bounded, spent⟩
  | expired => exact hm
  | blocked idle | enqueued idle | granted idle =>
      rintro _ ⟨⟩
      exact (hm _ rfl).moved (by rcases idle with idle | idle <;> simp [idle]) (by simp)
  | withdrawn old | promoted old | demoted old | suspended old | completed old =>
      rintro _ ⟨⟩
      exact (hm _ rfl).moved (by simp [old]) (by simp)

theorem Trace.tallied (h : Trace m es n) (kept : m.scheduler.Kept)
    (hm : Tallied m.scheduler.limits.maxRetries k (m.scheduler.graph.unit? id)) :
    Tallied m.scheduler.limits.maxRetries (es.foldl (Event.tally id) k)
      (n.scheduler.graph.unit? id) := by
  induction h generalizing k with
  | nil => exact hm
  | cons step rest ih =>
      have limits := congrArg Limits.maxRetries step.limits
      have first := step.tallied kept hm
      rw [← limits] at first ⊢
      exact ih (step.kept kept) first

end Session

/-! ### The tries of a unit over its calls -/

namespace Event

variable {es : List Event} {id : UnitId} {k : Tally}

theorem foldl_tally_ended {first : Event} (filled : ∀ e ∈ es, e.isPromotion = true) :
    (first :: (es ++ [.flush])).foldl (Event.tally id) k = first.tally id k := by
  rw [List.foldl_cons, foldl_tally_eq]
  exact List.forall_mem_append.2 ⟨fun e he => tally_of_isPromotion (filled e he), by simp [tally]⟩

theorem foldl_tally_expiries {ids : List UnitId} {reports : List TransitionReport}
    (h : Expiries ids reports es) (k : Tally) :
    es.foldl (Event.tally id) k = ⟨k.start, k.failures + ids.count id⟩ := by
  induction h generalizing k with
  | nil => rfl
  | @cons i ids report reports first promotions es fails filled rest ih =>
      have turns : Event.expire i :: first :: (promotions ++ .flush :: es) =
          .expire i :: ((first :: (promotions ++ [.flush])) ++ es) := by simp
      have noted : (Event.expire i).tally id k = k := rfl
      have failed : first.tally id k = ⟨k.start, k.failures + if i = id then 1 else 0⟩ := by
        rcases fails with rfl | rfl <;> rw [tally] <;> split <;> rfl
      rw [turns, List.foldl_cons, noted, List.foldl_append, foldl_tally_ended filled, failed, ih,
        List.count_cons]
      simp only [beq_iff_eq, Nat.add_assoc, Nat.add_comm (List.count id ids)]

end Event

theorem Script.tally {σ : Type} {c : Call σ} {es : List Event} {id : UnitId}
    (h : Script c.before c.command c.answer es) (k : Tally) :
    es.foldl (Event.tally id) k = c.tally id k := by
  obtain ⟨before, command, answer, after⟩ := c
  simp only at h
  cases h with
  | ended told ends filled =>
      rw [Event.foldl_tally_ended filled]
      cases ends with
      | completed | suspended => cases told <;> rfl
      | retried | failed => cases told <;> exact (Call.tally_of_failures rfl rfl k).symm
  | expired expiries => exact Event.foldl_tally_expiries expiries k
  | @registered u =>
      rw [Call.tally]
      by_cases hid : u.id = id <;>
        simp [Event.tally, Call.rearms, Call.registers, Call.failures, hid]
  | @parted plan _ _ withdrawn =>
      rw [Call.tally]
      by_cases part : id ∈ plan.partIds <;> rcases withdrawn with rfl | rfl <;>
        simp [Event.tally, Call.rearms, Call.registers, Call.failures, part]
  | @reset i =>
      rw [Call.tally]
      by_cases hid : i = id <;> simp [Event.tally, Call.rearms, Call.failures, hid]
  | archived withdrawn => rcases withdrawn with rfl | rfl <;> rfl
  | requested launched => cases launched <;> rfl
  | unended told failed =>
      rw [Call.tally_of_error rfl]
      rcases failed with rfl | rfl <;> rfl
  | refused | reinstated => exact (Call.tally_of_error rfl k).symm
  | @late _ _ outcome => cases outcome <;> rfl
  | connected | resized | retuned | progressed | flushed => rfl

/-- Of the events of silent units those before a unit's failure leave its tries alone. -/
theorem Expiries.failure {ids : List UnitId} {reports : List TransitionReport} {es : List Event}
    {id : UnitId} (h : Expiries ids reports es) (mem : id ∈ ids) :
    ∃ es₁ first es₂, es = es₁ ++ first :: es₂ ∧ (first = .retry id ∨ first = .fail id) ∧
      ∀ e ∈ es₁, ∀ k, e.tally id k = k := by
  induction h with
  | nil => cases mem
  | @cons i ids report reports first promotions es fails filled rest ih =>
      by_cases hi : i = id
      · subst hi
        exact ⟨[.expire i], first, promotions ++ .flush :: es, rfl, fails, by simp [Event.tally]⟩
      · obtain ⟨es₁, failure, es₂, rfl, fails', spared⟩ :=
          ih ((List.mem_cons.1 mem).resolve_left (Ne.symm hi))
        refine ⟨.expire i :: first :: (promotions ++ .flush :: es₁), failure, es₂, by simp, fails', ?_⟩
        have other (k : Tally) : first.tally id k = k := by
          rcases fails with rfl | rfl <;> exact if_neg hi
        simp only [List.forall_mem_cons, List.forall_mem_append]
        exact ⟨fun _ => rfl, other, fun e he => Event.tally_of_isPromotion (filled e he),
          fun _ => rfl, spared⟩

/-- A call in which the unit's run fails is told so, or finds the unit among the silent ones. -/
theorem Script.fails {σ : Type} {c : Call σ} {es : List Event} {id : UnitId}
    (h : Script c.before c.command c.answer es) (mem : id ∈ c.failures) :
    (∃ first promotions, es = first :: (promotions ++ [.flush]) ∧
      (first = .retry id ∨ first = .fail id) ∧ ∀ e ∈ promotions, e.isPromotion = true) ∨
    ∃ now reports, id ∈ Op.idleAt c.before.scheduler now ∧
      Expiries (Op.idleAt c.before.scheduler now) reports es := by
  obtain ⟨before, command, answer, after⟩ := c
  simp only at h
  have refused {refusal : Refusal} :
      id ∉ (⟨before, command, .error refusal, after⟩ : Call σ).failures := by
    simp [Call.failures]
  cases h with
  | ended told ends filled =>
      cases ends with
      | completed | suspended => cases told <;> cases mem
      | retried =>
          cases told <;> cases List.mem_singleton.1 mem <;> exact .inl ⟨_, _, rfl, .inl rfl, filled⟩
      | failed =>
          cases told <;> cases List.mem_singleton.1 mem <;> exact .inl ⟨_, _, rfl, .inr rfl, filled⟩
  | expired expiries => exact .inr ⟨_, _, mem, expiries⟩
  | @late _ _ outcome => cases outcome <;> cases mem
  | refused | unended | reinstated => exact absurd mem refused
  | _ => cases mem

/-- The call resets the unit. -/
def Call.Resets {σ : Type} (c : Call σ) (id : UnitId) : Prop :=
  c.command = .resetFailed id ∧ ∃ answer, c.answer = .ok answer

theorem Script.resets {σ : Type} {c : Call σ} {es : List Event} {id : UnitId}
    (h : Script c.before c.command c.answer es) (mem : .reset id ∈ es) : c.Resets id := by
  obtain ⟨before, command, answer, after⟩ := c
  simp only at h
  cases h with
  | reset =>
      cases (by simpa using mem : id = _)
      exact ⟨rfl, _, rfl⟩
  | ended told ends filled =>
      simp only [List.mem_cons, List.mem_append, List.not_mem_nil, or_false, reduceCtorEq] at mem
      rcases mem with rfl | mem
      · cases ends
      · cases filled _ mem
  | expired expiries =>
      exact absurd rfl (expiries.forall_events (P := (· ≠ .reset id)) (by simp) (by simp)
        (by rintro _ promotion rfl; cases promotion) (by simp) _ mem)
  | archived withdrawn | parted withdrawn => rcases withdrawn with rfl | rfl <;> simp at mem
  | requested launched => cases launched <;> simp at mem
  | unended told failed => rcases failed with rfl | rfl <;> simp at mem
  | _ => simp at mem

namespace Call

variable {σ : Type} [Storage σ]

/-- One of the events of the call is a retry, after which the unit waits in the queue again, with one
more retry. -/
def Requeues (c : Call σ) (id : UnitId) (u : WorkUnit) : Prop :=
  ∃ es es' m w, Script c.before c.command c.answer (es ++ .retry id :: es') ∧
    Session.Trace c.before (es ++ [.retry id]) m ∧ Session.Trace m es' c.after ∧
    m.scheduler.graph.unit? id = some w ∧ w.status = .queued ∧
    w.retryCount.toNat = u.retryCount.toNat + 1 ∧ ∃ l ∈ m.scheduler.queue.entries, l.unitId = id

/-- What a call makes of the retries of a live unit. -/
structure Retries (limit : UInt32) (c : Call σ) (id : UnitId) (u : WorkUnit) : Prop where
  retried : id ∈ c.failures → u.retryCount < limit → u.status = .running ∧ c.Requeues id u ∧
    ∃ v, c.after.scheduler.graph.unit? id = some v ∧ v.status ≠ .failed ∧
      v.retryCount.toNat = u.retryCount.toNat + 1
  failed : id ∈ c.failures → ¬ u.retryCount < limit → u.status = .running ∧
    c.after.scheduler.graph.unit? id = some { u with status := .failed }
  spared : id ∉ c.failures → ¬ c.Resets id →
    ∀ v, c.after.scheduler.graph.unit? id = some v → v.retryCount = u.retryCount

end Call

namespace Session

open BuildAdmission.Graph Event

variable {σ : Type} [Storage σ] {m n s t : Session σ} {e : Event} {es : List Event} {c : Command}
  {calls : List (Call σ)} {id : UnitId} {limit : UInt32} {k : Tally} {u v : WorkUnit}

/-- The tries of a unit after several calls. -/
def tally (calls : List (Call σ)) (id : UnitId) (k : Tally) : Tally :=
  calls.foldl (Call.tally id) k

/-- The tries of a unit when its retries are counted from now on. -/
def begun (s : Session σ) (id : UnitId) : Tally :=
  ⟨((s.scheduler.graph.unit? id).map (·.retryCount)).getD 0, 0⟩

omit [Storage σ] in
theorem tallied_begun (limit : UInt32) (s : Session σ) (id : UnitId) :
    Tallied limit (s.begun id) (s.scheduler.graph.unit? id) := by
  intro u live
  rw [begun, live]
  exact .fresh limit u

theorem call_tallied (kept : t.scheduler.Kept) (c : Command)
    (ht : Tallied t.scheduler.limits.maxRetries k (t.scheduler.graph.unit? id)) :
    Tallied t.scheduler.limits.maxRetries ((t.call c).tally id k)
      ((t.call c).after.scheduler.graph.unit? id) := by
  obtain ⟨es, script, trace⟩ := call_script kept c
  rw [← Script.tally (c := t.call c) script]
  exact trace.tallied kept ht

theorem Run.tallied (run : Run s calls t) (opened : Opened s)
    (hs : Tallied s.scheduler.limits.maxRetries k (s.scheduler.graph.unit? id)) :
    Tallied t.scheduler.limits.maxRetries (tally calls id k) (t.scheduler.graph.unit? id) := by
  induction run with
  | nil => exact hs
  | wait rest clock date ih => exact ih
  | @call calls t rest c ih =>
      obtain ⟨es, trace⟩ := call_trace t c
      rw [trace.limits, tally, List.foldl_append]
      exact call_tallied (rest.kept opened) c ih

/-! ### A single call -/

theorem call_fails (kept : t.scheduler.Kept) (live : t.scheduler.graph.unit? id = some u)
    (mem : id ∈ (t.call c).failures) : u.status = .running ∧
      ∃ v, (t.call c).after.scheduler.graph.unit? id = some v ∧ Fails u v := by
  obtain ⟨es, script, trace⟩ := call_script kept c
  have alters := trace.alterAll kept id
  rw [live] at alters
  obtain ⟨first, promotions, rfl, fails, filled⟩ | ⟨now, reports, silent, expiries⟩ :=
    Script.fails (c := t.call c) script mem
  · refine ⟨?_, alters.fails fails (List.forall_mem_append.2 ⟨fun e he => .inl (filled e he), by simp⟩)⟩
    cases alters with
    | cons alters =>
      rcases fails with rfl | rfl
      · cases alters with
        | spared apart => simp [subjects] at apart
        | retried runs => exact runs
      · cases alters with
        | spared apart => simp [subjects] at apart
        | failed runs => exact runs
  · obtain ⟨v, after, ⟨_, runs, fails⟩ | ⟨apart, _⟩⟩ := alters_silent kept live expiries alters
    · exact ⟨runs, v, after, fails⟩
    · exact absurd silent apart

/-- Before its failure a call leaves the tries of a unit alone. -/
theorem call_failure (kept : t.scheduler.Kept) (live : t.scheduler.graph.unit? id = some u)
    (mem : id ∈ (t.call c).failures) : ∃ es first es' m n w,
      Script t c (t.call c).answer (es ++ first :: es') ∧ Trace t es m ∧ Step m first n ∧
      Trace n es' (t.call c).after ∧ (first = .retry id ∨ first = .fail id) ∧
      m.scheduler.graph.unit? id = some w ∧ w.retryCount = u.retryCount := by
  obtain ⟨es, script, trace⟩ := call_script kept c
  have failure : ∃ es₁ first es₂, es = es₁ ++ first :: es₂ ∧
      (first = .retry id ∨ first = .fail id) ∧ ∀ e ∈ es₁, ∀ k, e.tally id k = k := by
    obtain ⟨first, promotions, rfl, fails, _⟩ | ⟨_, _, silent, expiries⟩ :=
      Script.fails (c := t.call c) script mem
    · exact ⟨[], first, promotions ++ [.flush], rfl, fails, by simp⟩
    · exact expiries.failure silent
  obtain ⟨es₁, first, es₂, rfl, fails, spared⟩ := failure
  obtain ⟨m, front, back⟩ := trace.split
  cases back with
  | @cons _ n _ _ _ step rest =>
      have slot : ∃ w, m.scheduler.graph.unit? id = some w := by
        rcases fails with rfl | rfl
        · cases step with
          | retry live => exact ⟨_, live⟩
        · cases step with
          | fail live => exact ⟨_, live⟩
      obtain ⟨w, live'⟩ := slot
      have tallied := front.tallied kept (tallied_begun _ t id)
      rw [foldl_tally_eq spared, begun, live] at tallied
      refine ⟨es₁, first, es₂, m, n, w, script, front, step, rest, fails, live',
        UInt32.toNat_inj.1 ?_⟩
      simpa using (tallied w live').retries

theorem call_requeues (kept : t.scheduler.Kept) (live : t.scheduler.graph.unit? id = some u)
    (mem : id ∈ (t.call c).failures) (tries : u.retryCount < t.scheduler.limits.maxRetries) :
    (t.call c).Requeues id u := by
  obtain ⟨es, first, es', m, n, w, script, front, step, back, fails, live', same⟩ :=
    call_failure kept live mem
  rw [← same, ← congrArg Limits.maxRetries front.limits] at tries
  obtain rfl := fails.resolve_right fun fail => (step.tries live').2 fail tries
  obtain ⟨_, alters, _⟩ := step.alters (front.kept kept) id
  rw [live'] at alters
  generalize after : n.scheduler.graph.unit? id = unit at alters
  cases alters with
  | spared apart => simp [subjects] at apart
  | retried runs counted =>
      have kept' := step.kept (front.kept kept)
      obtain ⟨l, hl, named, _⟩ := (kept'.queue.waiting id w.priority).2
        (standing_queued_iff.2 ⟨_, after, rfl, rfl⟩)
      exact ⟨es, es', n, _, script, front.snoc step, back, after, rfl, same ▸ counted, l, hl, named⟩

theorem nodup_failures (t : Session σ) (c : Command) : (t.call c).failures.Nodup := by
  unfold Call.failures
  split
  · exact List.nodup_singleton _
  · exact List.nodup_singleton _
  · exact nodup_idleAt _ _
  · exact List.nodup_nil

/-- A unit that is there is not taken in again, so that only a reset lets its tries begin afresh. -/
theorem call_rearms (kept : t.scheduler.Kept) (built : t.scheduler.graph.Built)
    (taken : t.scheduler.graph.isTaken id = true) (c : Command)
    (stays : ¬ (t.call c).Resets id) : (t.call c).rearms id = none := by
  have old : (t.call c).registers id = none := by
    refine Option.eq_none_iff_forall_ne_some.2 fun r hr => ?_
    cases taken.symm.trans (call_registers kept built hr).1
  unfold Call.rearms
  split
  · next k answer asked answered =>
    refine if_neg fun same => stays ⟨?_, answer, answered⟩
    rw [asked, same]
  · rw [old]
    rfl

theorem call_retries (kept : t.scheduler.Kept) (built : t.scheduler.graph.Built)
    (live : t.scheduler.graph.unit? id = some u) (c : Command) :
    (t.call c).Retries t.scheduler.limits.maxRetries id u := by
  have taken : t.scheduler.graph.isTaken id = true := isTaken_iff.2 (.inl ⟨u, live⟩)
  have tried {v : WorkUnit} (stays : ¬ (t.call c).Resets id)
      (after : (t.call c).after.scheduler.graph.unit? id = some v) :
      Tried t.scheduler.limits.maxRetries ⟨u.retryCount, (t.call c).failures.count id⟩ v := by
    have tallied := call_tallied kept c (tallied_begun _ t id) v after
    rw [begun, live, Call.tally, call_rearms kept built taken c stays] at tallied
    simpa using tallied
  have told (mem : id ∈ (t.call c).failures) : ¬ (t.call c).Resets id := by
    rintro ⟨asked, _⟩
    rw [Call.failures, asked] at mem
    cases mem
  constructor
  · intro mem tries
    obtain ⟨runs, v, after, fails⟩ := call_fails kept live mem
    obtain ⟨retries, _, spent⟩ := tried (told mem) after
    rw [List.count_eq_one_of_mem (nodup_failures t c) mem] at retries spent
    rw [UInt32.lt_iff_toNat_lt] at tries
    simp only at retries spent
    refine ⟨runs, call_requeues kept live mem (UInt32.lt_iff_toNat_lt.2 tries), v, after, ?_, ?_⟩
    · rw [ne_eq, spent Nat.one_pos]
      omega
    · omega
  · intro mem tries
    obtain ⟨runs, v, after, fails⟩ := call_fails kept live mem
    obtain ⟨_, _, spent⟩ := tried (told mem) after
    rw [List.count_eq_one_of_mem (nodup_failures t c) mem] at spent
    rw [UInt32.lt_iff_toNat_lt] at tries
    have failed : v.status = .failed := (spent Nat.one_pos).2 (by simp only; omega)
    refine ⟨runs, ?_⟩
    cases fails with
    | forGood => exact after
    | again waits =>
        cases failed
        simp at waits
  · intro spared stays v after
    have tried := (tried stays after).retries
    rw [List.count_eq_zero_of_not_mem spared] at tried
    exact UInt32.toNat_inj.1 (by simpa using tried)

/-! ### A unit that has failed -/

/-- The unit has failed, or it is there no more. -/
structure Barred (id : UnitId) (m : Session σ) : Prop where
  taken : m.scheduler.graph.isTaken id = true
  failed : ∀ u, m.scheduler.graph.unit? id = some u → u.status = .failed

theorem Step.barred (h : Step m e n) (kept : m.scheduler.Kept) (built : m.scheduler.graph.Built)
    (stays : e ≠ .reset id) (hm : Barred id m) : Barred id n := by
  refine ⟨(h.grows built).2.taken hm.taken, ?_⟩
  have absent (brings : e.Brings id) : False := by
    cases (h.brings kept brings).1.symm.trans hm.taken
  obtain ⟨_, alters, _⟩ := h.alters kept id
  have failed := hm.failed
  generalize m.scheduler.graph.unit? id = old at failed alters
  generalize n.scheduler.graph.unit? id = new at alters
  cases alters with
  | spared | expired => exact failed
  | registered named => exact absurd named absent
  | parted part named => exact absurd (mem_partIds.2 ⟨_, part, named⟩) absent
  | connected | resized | rewired | refused | prioritised =>
      rintro _ ⟨⟩
      have old := failed _ rfl
      exact old
  | failed =>
      rintro _ ⟨⟩
      rfl
  | archived | replaced => exact nofun
  | reset => exact absurd rfl stays
  | blocked idle | enqueued idle | granted idle => simp [failed _ rfl] at idle
  | withdrawn other | promoted other | demoted other | suspended other | completed other
  | retried other => simp [failed _ rfl] at other

theorem Step.spares_barred (h : Step m e n) (kept : m.scheduler.Kept) (hm : Barred id m) :
    ∀ a ∈ e.admission?, a.unit.id ≠ id := by
  rintro a made rfl
  cases h with
  | grant live idle gate room read =>
      cases made
      cases kept.keyed.live _ _ live
      simp [hm.failed _ live] at idle
  | promote room pop live queued gate read =>
      cases made
      have named := kept.keyed.live _ _ live
      rw [← named] at live
      cases queued.symm.trans (hm.failed _ live)
  | _ => cases made

theorem Trace.barred (h : Trace m es n) (kept : m.scheduler.Kept) (built : m.scheduler.graph.Built)
    (stays : .reset id ∉ es) (hm : Barred id m) :
    Barred id n ∧ ∀ a ∈ Event.admissions es, a.unit.id ≠ id := by
  induction h with
  | nil => exact ⟨hm, by simp⟩
  | cons step rest ih =>
      obtain ⟨he, hes⟩ := not_or.1 (List.mem_cons.not.1 stays)
      obtain ⟨barred, spared⟩ := ih (step.kept kept) (step.grows built).1 hes
        (step.barred kept built (Ne.symm he) hm)
      refine ⟨barred, ?_⟩
      rw [Event.admissions_cons]
      exact List.forall_mem_append.2
        ⟨fun a ha => step.spares_barred kept hm a (Option.mem_toList.1 ha), spared⟩

theorem call_barred (kept : t.scheduler.Kept) (built : t.scheduler.graph.Built)
    (stays : ¬ (t.call c).Resets id) (ht : Barred id t) :
    Barred id (t.call c).after ∧ ∀ a ∈ (t.call c).given, a.unit.id ≠ id := by
  obtain ⟨es, script, trace, given⟩ := call_script_given kept c
  rw [← given]
  exact trace.barred kept built (fun mem => stays (Script.resets (c := t.call c) script mem)) ht

theorem Run.barred (run : Run s calls t) (kept : s.scheduler.Kept)
    (built : s.scheduler.graph.Built) (stays : ∀ c ∈ calls, ¬ c.Resets id) (hs : Barred id s) :
    Barred id t ∧ ∀ a ∈ givenBy calls, a.unit.id ≠ id := by
  induction run with
  | nil => exact ⟨hs, by simp [givenBy]⟩
  | wait rest clock date ih =>
      obtain ⟨barred, spared⟩ := ih stays
      exact ⟨⟨barred.taken, barred.failed⟩, spared⟩
  | @call calls t rest c ih =>
      obtain ⟨earlier, last⟩ := List.forall_mem_append.1 stays
      obtain ⟨barred, spared⟩ := ih earlier
      have kept : t.scheduler.Kept :=
        rest.invariant (fun _ _ _ step => step.kept) (fun _ _ _ h => h) kept
      obtain ⟨barred, spared'⟩ :=
        call_barred kept (rest.grows built).1 (last _ (List.mem_singleton.2 rfl)) barred
      rw [givenBy_snoc]
      exact ⟨barred, List.forall_mem_append.2 ⟨spared, spared'⟩⟩

/-- Failures are retried as long as the unit has retries left, whatever happens to it between them,
and the next one is final. The retries are counted from when the unit was taken in or reset, and only
a failure adds to them. A unit that has failed for good is given no slot until it is reset. -/
theorem Run.retries_bounded (run : Run s calls t) (opened : Opened s)
    (live : t.scheduler.graph.unit? id = some u) :
    let limit := t.scheduler.limits.maxRetries
    let tries := tally calls id (s.begun id)
    (Tried limit tries u ∧ u.retryCount.toNat ≤ max tries.start.toNat limit.toNat) ∧
      (∀ c, (t.call c).Retries limit id u) ∧
      (u.status = .failed → ∀ later t', Run t later t' → (∀ c ∈ later, ¬ c.Resets id) →
        ∀ a ∈ givenBy later, a.unit.id ≠ id) := by
  have kept := run.kept opened
  have built := run.built opened
  have tried := run.tallied opened (tallied_begun _ s id) u live
  refine ⟨⟨tried, tried.le_max⟩, call_retries kept built live, ?_⟩
  intro failed later t' more stays
  refine (more.barred kept built stays ⟨isTaken_iff.2 (.inl ⟨u, live⟩), ?_⟩).2
  intro v live'
  cases live.symm.trans live'
  exact failed

/-- `lib` fails two more times, the second of which is reported with its ticket. -/
def exhaustedCalls : List Command :=
  retriedCalls ++ [.failed "lib" "crashed", .applyOutcome "lib" 3 (.failed "crashed")]

theorem retries_bounded_exhausted : ∃ (t : Session Vault) (u : WorkUnit),
    Run narrow (narrow.callsOf exhaustedCalls) t ∧ t.scheduler.graph.unit? "lib" = some u ∧
    (tally (narrow.callsOf exhaustedCalls) "lib" (narrow.begun "lib")).failures = 3 ∧
    t.scheduler.limits.maxRetries = 2 ∧ u.status = .failed ∧ u.retryCount = 2 := by
  have run := run_callAll narrow exhaustedCalls
  have limit : (narrow.callAll exhaustedCalls).scheduler.limits.maxRetries = 2 := by decide +kernel
  have tries : tally (narrow.callsOf exhaustedCalls) "lib" (narrow.begun "lib") = ⟨0, 3⟩ := by
    decide +kernel
  have there : (narrow.callAll exhaustedCalls).scheduler.graph.unit? "lib" ≠ none := by
    decide +kernel
  generalize narrow.callAll exhaustedCalls = t at run limit there
  obtain ⟨u, live⟩ := Option.ne_none_iff_exists'.1 there
  have bounded := run.retries_bounded opened_narrow live
  simp only [tries, limit] at bounded
  refine ⟨t, u, run, live, by rw [tries], limit, (bounded.1.1.spent (by simp)).2 ?_, ?_⟩
  · decide
  · exact UInt32.toNat_inj.1 bounded.1.1.retries

end Session

end BuildAdmission
