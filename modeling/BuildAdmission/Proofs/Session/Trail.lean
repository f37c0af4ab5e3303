import Mathlib.Data.List.DropRight
import BuildAdmission.Proofs.Session.Alteration
import BuildAdmission.Proofs.Session.Completion
import BuildAdmission.Proofs.Session.Script
import BuildAdmission.Proofs.Session.Tickets

namespace BuildAdmission

/-- What a unit was taken in with. -/
structure Registration where
  status : Status
  retryCount : UInt32

namespace AuditAction

/-- The status of a live unit after an action, from its status before and the one that it was
registered with. -/
def follow (registered status : Option Status) : AuditAction → Option Status
  | register => registered
  | admission | promote => some .running
  | enqueue | retry => some .queued
  | block | reset => some .pending
  | splitRequired => if status = some .queued then some .pending else status
  | suspend => some .checkpointed
  | complete => some .complete
  | fail => some .failed
  | expire => status
  | archive | split => none

/-- How a unit stands after the actions that were noted of it. -/
def replay (registered : Option Status) (actions : List AuditAction) : Option Status :=
  actions.foldl (follow registered) none

theorem replay_snoc (registered : Option Status) (actions : List AuditAction) (a : AuditAction) :
    replay registered (actions ++ [a]) = follow registered (replay registered actions) a :=
  List.foldl_concat ..

def admits : AuditAction → Bool
  | admission | promote => true
  | _ => false

/-- The retries since the last reset. -/
def retries (actions : List AuditAction) : Nat := (actions.rtakeWhile (· ≠ reset)).count retry

theorem retries_snoc (actions : List AuditAction) (a : AuditAction) : retries (actions ++ [a]) =
    if a = reset then 0 else retries actions + if a = retry then 1 else 0 := by
  rw [retries, List.rtakeWhile_concat]
  by_cases ha : a = reset
  · simp [ha]
  · simp [ha, retries, List.count_singleton, beq_eq_decide]

theorem retries_eq_zero {actions : List AuditAction} (h : retry ∉ actions) : retries actions = 0 :=
  List.count_eq_zero_of_not_mem fun late => h ((List.rtakeWhile_suffix _ _).mem late)

end AuditAction

namespace AuditLog

variable {log : AuditLog} {es : List AuditEntry}

/-- A log that has room for all entries keeps them all. -/
theorem recordAll_entries (room : log.entries.length + es.length ≤ log.capacity) :
    (log.recordAll es).entries = log.entries ++ es := by
  induction es generalizing log with
  | nil => simp [recordAll]
  | cons e es ih =>
      rw [List.length_cons] at room
      have recorded : log.record e = { log with entries := log.entries ++ [e] } := by
        rw [record, if_neg (by omega), if_pos (by omega)]
      have rest := @ih (log.record e) (by simp [recorded]; omega)
      rw [recorded] at rest
      simpa [recordAll, recorded] using rest

end AuditLog

namespace Call

variable {σ : Type}

/-- What the call registers the unit with. The parts of a unit start afresh. -/
def registers (c : Call σ) (id : UnitId) : Option Registration :=
  match c.command, c.answer with
  | .addUnit u, .ok _ => if u.id = id then some ⟨u.status, u.retryCount⟩ else none
  | .split plan, .ok _ => if id ∈ plan.partIds then some ⟨.pending, 0⟩ else none
  | _, _ => none

end Call

namespace Event

/-- What the units that the event brings up are registered with. -/
def Registers (d : UnitId → Option Registration) : Event → Prop
  | register u => d u.id = some ⟨u.status, u.retryCount⟩
  | split plan => ∀ id ∈ plan.partIds, d id = some ⟨.pending, 0⟩
  | _ => True

end Event

/-- The actions that are noted of a unit tell how it stands. -/
structure Story (registered : Option Registration) (taken : Bool) (actions : List AuditAction)
    (unit : Option WorkUnit) : Prop where
  status : AuditAction.replay (registered.map (·.status)) actions = unit.map (·.status)
  retries : ∀ u, unit = some u → ∃ r, registered = some r ∧
    u.retryCount.toNat = AuditAction.retries actions + if .reset ∈ actions then 0 else r.retryCount.toNat
  fresh : taken = false → .retry ∉ actions ∧ .reset ∉ actions

namespace Story

open Event

variable {registered : Option Registration} {d : UnitId → Option Registration} {taken taken' : Bool}
  {actions notes : List AuditAction}
  {old new : Option WorkUnit} {u v : WorkUnit} {action : AuditAction} {id : UnitId} {e : Event}

theorem nothing (registered : Option Registration) (taken : Bool) : Story registered taken [] none :=
  ⟨rfl, by simp, by simp⟩

theorem later (h : Story registered taken actions old)
    (untaken : taken' = false → taken = false) : Story registered taken' actions old :=
  ⟨h.status, h.retries, fun free => h.fresh (untaken free)⟩

theorem silent (h : Story registered taken actions (some u)) (status : v.status = u.status)
    (retries : v.retryCount = u.retryCount) : Story registered true (actions ++ []) (some v) := by
  refine ⟨?_, ?_, by simp⟩
  · rw [List.append_nil, h.status, Option.map_some, Option.map_some, status]
  · rintro w ⟨⟩
    rw [List.append_nil, retries]
    exact h.retries u rfl

theorem noted (h : Story registered taken actions (some u)) (plain : action ≠ .retry ∧ action ≠ .reset)
    (follows : AuditAction.follow (registered.map (·.status)) (some u.status) action = some v.status)
    (retries : v.retryCount = u.retryCount) :
    Story registered true (actions ++ [action]) (some v) := by
  refine ⟨?_, ?_, by simp⟩
  · rw [AuditAction.replay_snoc, h.status]
    exact follows
  · rintro w ⟨⟩
    obtain ⟨r, hr, counted⟩ := h.retries u rfl
    refine ⟨r, hr, ?_⟩
    rw [AuditAction.retries_snoc, retries, counted]
    simp [plain, Ne.symm plain.2]

theorem retried (h : Story registered taken actions (some u)) (status : v.status = .queued)
    (retries : v.retryCount.toNat = u.retryCount.toNat + 1) :
    Story registered true (actions ++ [.retry]) (some v) := by
  refine ⟨?_, ?_, by simp⟩
  · rw [AuditAction.replay_snoc, Option.map_some, status]
    rfl
  · rintro w ⟨⟩
    obtain ⟨r, hr, counted⟩ := h.retries u rfl
    refine ⟨r, hr, ?_⟩
    rw [AuditAction.retries_snoc, retries, counted]
    simp only [reduceCtorEq, if_false, if_true, List.mem_append, List.mem_singleton, or_false]
    omega

theorem reset (h : Story registered taken actions (some u)) (status : v.status = .pending)
    (retries : v.retryCount = 0) : Story registered true (actions ++ [.reset]) (some v) := by
  refine ⟨?_, ?_, by simp⟩
  · rw [AuditAction.replay_snoc, Option.map_some, status]
    rfl
  · rintro w ⟨⟩
    obtain ⟨r, hr, _⟩ := h.retries u rfl
    refine ⟨r, hr, ?_⟩
    rw [AuditAction.retries_snoc, retries]
    simp

/-- A unit that comes up was not noted before. -/
theorem register {r : Registration} (h : Story (some r) false actions none)
    (status : v.status = r.status) (retries : v.retryCount = r.retryCount) :
    Story (some r) true (actions ++ [.register]) (some v) := by
  obtain ⟨unretried, unreset⟩ := h.fresh rfl
  refine ⟨?_, ?_, by simp⟩
  · rw [AuditAction.replay_snoc, Option.map_some, Option.map_some, status]
    rfl
  · rintro w ⟨⟩
    refine ⟨r, rfl, ?_⟩
    rw [retries, AuditAction.retries_snoc, AuditAction.retries_eq_zero unretried]
    simp [unreset]

theorem gone (registered : Option Registration) (actions : List AuditAction)
    (removes : action = .archive ∨ action = .split) :
    Story registered true (actions ++ [action]) none := by
  refine ⟨?_, by simp, by simp⟩
  rw [AuditAction.replay_snoc]
  rcases removes with rfl | rfl <;> rfl

theorem expired (h : Story registered taken actions old) :
    Story registered taken (actions ++ [.expire]) old := by
  refine ⟨?_, ?_, ?_⟩
  · rw [AuditAction.replay_snoc, h.status]
    rfl
  · intro u live
    obtain ⟨r, hr, counted⟩ := h.retries u live
    refine ⟨r, hr, ?_⟩
    rw [AuditAction.retries_snoc, counted]
    simp
  · intro untaken
    simpa using h.fresh untaken

/-- An event goes on with the story of a unit. -/
theorem alters (h : Story (d id) taken actions old) (alters : e.Alters id old notes new)
    (agrees : e.Registers d) (stays : e ≠ .withdraw id)
    (fresh : old = none → new ≠ none → taken = false)
    (untaken : taken' = false → taken = false ∧ old = none ∧ new = none) :
    Story (d id) taken' (actions ++ notes) new := by
  have known {unit : Option WorkUnit} {u : WorkUnit} (there : unit = old ∨ unit = new)
      (live : unit = some u) : taken' = true := by
    by_contra absent
    obtain ⟨_, none, none'⟩ := untaken (by simpa using absent)
    rcases there with rfl | rfl
    · cases live.symm.trans none
    · cases live.symm.trans none'
  cases alters with
  | spared => exact (List.append_nil actions).symm ▸ h.later fun free => (untaken free).1
  | expired => exact h.expired.later fun free => (untaken free).1
  | @registered u named status =>
      rw [known (.inr rfl) rfl]
      subst named
      rw [agrees] at h ⊢
      exact (fresh rfl (by simp) ▸ h).register rfl rfl
  | @parted plan u whole part named =>
      rw [known (.inr rfl) rfl]
      rw [agrees id (Graph.mem_partIds.2 ⟨u, part, named⟩)] at h ⊢
      exact (fresh rfl (by simp) ▸ h).register rfl rfl
  | connected | resized | rewired | prioritised =>
      rw [known (.inr rfl) rfl]
      exact h.silent rfl rfl
  | withdrawn => exact absurd rfl stays
  | archived =>
      rw [known (.inl rfl) rfl]
      exact gone _ _ (.inl rfl)
  | replaced =>
      rw [known (.inl rfl) rfl]
      exact gone _ _ (.inr rfl)
  | blocked | enqueued | granted | promoted | suspended | completed | failed =>
      rw [known (.inr rfl) rfl]
      exact h.noted (by simp) rfl rfl
  | refused idle =>
      rw [known (.inr rfl) rfl]
      refine h.noted (by simp) ?_ rfl
      rcases idle with idle | idle <;> simp [AuditAction.follow, idle]
  | demoted queued reason =>
      rw [known (.inr rfl) rfl]
      rcases reason with rfl | rfl
      · exact h.noted (by simp) rfl rfl
      · exact h.noted (by simp) (by simp [AuditAction.follow, queued]) rfl
  | reset =>
      rw [known (.inr rfl) rfl]
      exact h.reset rfl rfl
  | retried _ counted =>
      rw [known (.inr rfl) rfl]
      exact h.retried rfl counted

end Story

namespace Event

/-- The event brings the unit up. -/
def Brings (id : UnitId) : Event → Prop
  | register u => u.id = id
  | split plan => id ∈ plan.partIds
  | _ => False

end Event

theorem Call.registers_eq_some {σ : Type} {c : Call σ} {id : UnitId} {r : Registration}
    (h : c.registers id = some r) : ∃ answer, c.answer = .ok answer ∧
      ((∃ u, c.command = .addUnit u ∧ u.id = id ∧ r = ⟨u.status, u.retryCount⟩) ∨
        ∃ plan, c.command = .split plan ∧ id ∈ plan.partIds ∧ r = ⟨.pending, 0⟩) := by
  unfold registers at h
  split at h
  · next u answer hc ha =>
    split at h
    · next named => exact ⟨answer, ha, .inl ⟨u, hc, named, (Option.some.inj h).symm⟩⟩
    · cases h
  · next plan answer hc ha =>
    split at h
    · next part => exact ⟨answer, ha, .inr ⟨plan, hc, part, (Option.some.inj h).symm⟩⟩
    · cases h
  · cases h

namespace Session

open BuildAdmission.Graph AuditLog Event

variable {σ : Type} [Storage σ] {m n s t : Session σ} {e : Event} {es : List Event}
  {calls : List (Call σ)} {c : Command} {id : UnitId} {d : UnitId → Option Registration}

/-- What the unit was registered with. -/
def registeredIn (calls : List (Call σ)) (id : UnitId) : Option Registration :=
  calls.findSome? (·.registers id)

/-! ### A unit is registered once -/

theorem Step.brings (h : Step m e n) (kept : m.scheduler.Kept) (brings : e.Brings id) :
    m.scheduler.graph.isTaken id = false ∧ n.scheduler.graph.isTaken id = true := by
  cases h with
  | register status added =>
      obtain ⟨free, _, rfl⟩ := addUnit_eq_ok added
      cases brings
      refine ⟨free, isTaken_iff.2 (.inl ⟨_, (IdMap.find?_insert ..).trans (if_pos rfl)⟩)⟩
  | split live idle free accepted =>
      obtain ⟨_, _, names, _⟩ := split_eq_ok accepted
      obtain ⟨_, _, _, made⟩ := unit?_split_part kept.keyed accepted live brings
      rw [foldl_log_scheduler]
      exact ⟨isTaken_part names brings, isTaken_iff.2 (.inl ⟨_, made⟩)⟩
  | _ => cases brings

theorem Trace.brings (h : Trace m es n) (kept : m.scheduler.Kept) (built : m.scheduler.graph.Built)
    (he : e ∈ es) (brings : e.Brings id) :
    m.scheduler.graph.isTaken id = false ∧ n.scheduler.graph.isTaken id = true := by
  obtain ⟨_, _, before, after, _, front, step, back⟩ := h.at_mem he
  obtain ⟨free, taken⟩ := step.brings (front.kept kept) brings
  obtain ⟨built', since⟩ := front.grows built
  exact ⟨since.free free, (back.grows (step.grows built').1).2.taken taken⟩

theorem call_registers {r : Registration} (kept : t.scheduler.Kept)
    (built : t.scheduler.graph.Built) (h : (t.call c).registers id = some r) :
    t.scheduler.graph.isTaken id = false ∧
      (t.call c).after.scheduler.graph.isTaken id = true := by
  obtain ⟨answer, answered, asked⟩ := Call.registers_eq_some h
  obtain ⟨es, script, trace⟩ := call_script kept c
  rw [answered] at script
  have brings : ∃ e ∈ es, e.Brings id := by
    obtain ⟨u, rfl, named, _⟩ | ⟨plan, rfl, part, _⟩ := asked
    · cases script with
      | registered => exact ⟨_, List.mem_cons_self, named⟩
      | ended told => cases told.freesSlots
    · cases script with
      | parted => exact ⟨.split plan, by simp, part⟩
      | ended told => cases told.freesSlots
  obtain ⟨e, he, brings⟩ := brings
  exact trace.brings kept built he brings

omit [Storage σ] in
theorem registeredIn_snoc (calls : List (Call σ)) (c : Call σ) (id : UnitId) :
    registeredIn (calls ++ [c]) id = (registeredIn calls id).or (c.registers id) := by
  rw [registeredIn, List.findSome?_append]
  cases h : c.registers id <;> simp [registeredIn, h]

theorem Run.taken (run : Run s calls t) (opened : Opened s)
    (h : registeredIn calls id ≠ none) : t.scheduler.graph.isTaken id = true := by
  induction run with
  | nil => exact absurd rfl h
  | wait rest clock date ih => exact ih h
  | @call calls t rest c ih =>
      have built := rest.built opened
      cases early : registeredIn calls id with
      | some r =>
          obtain ⟨es, trace⟩ := call_trace t c
          exact (trace.grows built).2.taken (ih (by simp [early]))
      | none =>
          obtain ⟨r, hr⟩ := Option.ne_none_iff_exists'.1 h
          rw [registeredIn_snoc, early, Option.none_or] at hr
          exact (call_registers (rest.kept opened) built hr).2

theorem Run.registered_once (run : Run s calls t) (opened : Opened s) :
    ∀ c ∈ calls, ∀ id r, c.registers id = some r → registeredIn calls id = some r := by
  induction run with
  | nil => simp
  | wait rest clock date ih => exact ih
  | @call calls t rest c ih =>
      intro c' hc' id r hr
      rw [registeredIn_snoc]
      rcases List.mem_append.1 hc' with hc' | hc'
      · rw [ih c' hc' id r hr, Option.some_or]
      · cases List.mem_singleton.1 hc'
        have free := (call_registers (rest.kept opened) (rest.built opened) hr).1
        have early : registeredIn calls id = none := by
          by_contra early
          cases (rest.taken opened early).symm.trans free
        rw [early, Option.none_or, hr]

/-! ### The trail tells how every unit stands -/

def Tells (d : UnitId → Option Registration) (m : Session σ) (id : UnitId) : Prop :=
  Story (d id) (m.scheduler.graph.isTaken id) (actionsFor m.trail id)
    (m.scheduler.graph.unit? id)

/-- A unit that comes up has a name that was free. -/
theorem Step.free (h : Step m e n) (built : m.scheduler.graph.Built)
    (absent : m.scheduler.graph.unit? id = none) (there : n.scheduler.graph.unit? id ≠ none) :
    m.scheduler.graph.isTaken id = false := by
  obtain ⟨built', since⟩ := h.grows built
  by_contra taken
  obtain ⟨u, live⟩ | ⟨u, archived⟩ := isTaken_iff.1 (by simpa using taken)
  · cases absent.symm.trans live
  · obtain ⟨v, live⟩ := Option.ne_none_iff_exists'.1 there
    cases (built'.apart id v live).symm.trans (since.archived id u archived)

theorem Step.tells (h : Step m e n) (kept : m.scheduler.Kept) (built : m.scheduler.graph.Built)
    (agrees : e.Registers d) (stays : e ≠ .withdraw id) (hm : Tells d m id) : Tells d n id := by
  obtain ⟨notes, alters, trail⟩ := h.alters kept id
  obtain ⟨_, since⟩ := h.grows built
  rw [Tells, trail]
  refine Story.alters hm alters agrees stays (h.free built) ?_
  intro free
  have early := since.free free
  exact ⟨early, (isTaken_eq_false_iff.1 early).1, (isTaken_eq_false_iff.1 free).1⟩

/-- Of a unit that is taken out the trail says so, whatever it said before. -/
theorem Step.tells_gone (h : Step m e n) (kept : m.scheduler.Kept)
    (built : m.scheduler.graph.Built) (removes : e = .archive id ∨ ∃ plan, e = .split plan ∧
      plan.whole = id) : Tells d n id := by
  obtain ⟨notes, alters, trail⟩ := h.alters kept id
  obtain ⟨_, since⟩ := h.grows built
  have live : ∃ u, m.scheduler.graph.unit? id = some u := by
    rcases removes with rfl | ⟨plan, rfl, rfl⟩
    · cases h with
      | archive live => exact ⟨_, live⟩
    · cases h with
      | split live => exact ⟨_, live⟩
  obtain ⟨u, live⟩ := live
  rw [Tells, trail, since.live id u live]
  rw [live] at alters
  generalize n.scheduler.graph.unit? id = new at alters
  rcases removes with rfl | ⟨plan, rfl, whole⟩
  · cases alters with
    | spared apart => simp [subjects] at apart
    | archived => exact .gone _ _ (.inl rfl)
  · cases alters with
    | spared apart => simp [subjects, whole] at apart
    | rewired apart => exact absurd whole apart
    | replaced => exact .gone _ _ (.inr rfl)

theorem Trace.tells (h : Trace m es n) (kept : m.scheduler.Kept) (built : m.scheduler.graph.Built)
    (agrees : ∀ e ∈ es, e.Registers d ∧ e ≠ .withdraw id) (hm : Tells d m id) : Tells d n id := by
  induction h with
  | nil => exact hm
  | cons step rest ih =>
      obtain ⟨⟨registers, stays⟩, hes⟩ := List.forall_mem_cons.1 agrees
      exact ih (step.kept kept) (step.grows built).1 hes (step.tells kept built registers stays hm)

/-- A unit is withdrawn only to be taken out at once. -/
theorem Trace.tells_retired {es : List Event} {k : UnitId} (h : Trace m (es ++ [e, .flush]) n)
    (kept : m.scheduler.Kept) (built : m.scheduler.graph.Built)
    (withdrawn : es = [] ∨ es = [.withdraw k])
    (removes : e = .archive k ∨ ∃ plan, e = .split plan ∧ plan.whole = k)
    (agrees : e.Registers d) (hm : Tells d m id) : Tells d n id := by
  obtain ⟨m', front, back⟩ := h.split
  have kept' := front.kept kept
  have built' := (front.grows built).1
  cases back with
  | @cons _ after _ _ _ step last =>
      have tells : Tells d after id := by
        by_cases hid : k = id
        · exact step.tells_gone kept' built' (hid ▸ removes)
        · refine step.tells kept' built' agrees ?_ (front.tells kept built ?_ hm)
          · rcases removes with rfl | ⟨plan, rfl, _⟩ <;> simp
          · rcases withdrawn with rfl | rfl
            · simp
            · simpa [Registers] using hid
      exact last.tells (step.kept kept') (step.grows built').1 (by simp [Registers]) tells

theorem call_tells (kept : t.scheduler.Kept) (built : t.scheduler.graph.Built)
    (agrees : ∀ id r, (t.call c).registers id = some r → d id = some r) (ht : Tells d t id) :
    Tells d (t.call c).after id := by
  obtain ⟨es, script, trace⟩ := call_script kept c
  generalize answered : (t.call c).answer = answer at script
  have plain {es : List Event} (h : ∀ e ∈ es, e.Registers d ∧ e ≠ .withdraw id)
      (trace : Trace t es (t.call c).after) : Tells d (t.call c).after id :=
    trace.tells kept built h ht
  have promotion (e : Event) (h : e.isPromotion = true) : e.Registers d ∧ e ≠ .withdraw id := by
    cases e with
    | promote | demote | drop | stall => exact ⟨trivial, nofun⟩
    | _ => cases h
  cases script with
  | registered =>
      have registers := agrees _ _ (by rw [Call.registers, answered]; exact if_pos rfl)
      refine plain ?_ trace
      simpa [Registers] using registers
  | parted withdrawn =>
      refine trace.tells_retired kept built withdrawn (.inr ⟨_, rfl, rfl⟩) (fun id part => ?_) ht
      exact agrees _ _ (by rw [Call.registers, answered]; exact if_pos part)
  | archived withdrawn => exact trace.tells_retired kept built withdrawn (.inl rfl) trivial ht
  | requested launched => cases launched <;> exact plain (by simp [Registers]) trace
  | ended told ends filled =>
      refine plain (List.forall_mem_cons.2 ⟨?_, List.forall_mem_append.2 ⟨?_, ?_⟩⟩) trace
      · cases ends <;> exact ⟨trivial, nofun⟩
      · exact fun e he => promotion e (filled e he)
      · simp [Registers]
  | expired expiries =>
      exact plain (expiries.forall_events (fun _ => ⟨trivial, nofun⟩)
        (fun _ => ⟨⟨trivial, nofun⟩, ⟨trivial, nofun⟩⟩) promotion ⟨trivial, nofun⟩) trace
  | unended told failed =>
      refine plain ?_ trace
      rcases failed with rfl | rfl <;> simp [Registers]
  | refused | connected | resized | retuned | late | progressed | reset | reinstated | flushed =>
      exact plain (by simp [Registers]) trace

theorem Run.tells (run : Run s calls t) (opened : Opened s)
    (agrees : ∀ c ∈ calls, ∀ id r, c.registers id = some r → d id = some r) (hs : Tells d s id) :
    Tells d t id := by
  induction run with
  | nil => exact hs
  | wait rest clock date ih => exact ih agrees
  | call rest c ih =>
      obtain ⟨earlier, last⟩ := List.forall_mem_append.1 agrees
      exact call_tells (rest.kept opened) (rest.built opened) (last _ (List.mem_singleton.2 rfl))
        (ih earlier)

/-! ### The trail counts the tickets -/

theorem Step.counted (h : Step m e n) :
    n.trail.countP (·.action.admits) + m.scheduler.nextTicket =
      m.trail.countP (·.action.admits) + n.scheduler.nextTicket := by
  have noted {n : Session σ} {entry : AuditEntry} (trail : n.trail = m.trail ++ [entry])
      (next : n.scheduler.nextTicket =
        m.scheduler.nextTicket + if entry.action.admits then 1 else 0) :
      n.trail.countP (·.action.admits) + m.scheduler.nextTicket =
        m.trail.countP (·.action.admits) + n.scheduler.nextTicket := by
    rw [trail, next, List.countP_append, List.countP_singleton]
    omega
  cases h with
  | split =>
      have parts (ids : List UnitId) (detail : Option String) :
          (ids.map (AuditEntry.mk · .register detail)).countP (·.action.admits) = 0 :=
        List.countP_eq_zero.2 (by simp [AuditAction.admits])
      rw [foldl_log_trail, foldl_log_scheduler, List.countP_append, parts, Nat.add_zero]
      exact noted rfl rfl
  | demote room pop live queued gate =>
      obtain ⟨_, _, rfl, rfl⟩ | ⟨_, _, rfl⟩ := gate <;> exact noted rfl rfl
  | register | reset | archive | block | refuse | enqueue | grant | promote | suspend | complete
  | retry | fail | expire => exact noted rfl rfl
  | _ => rfl

theorem Run.counted (run : Run s calls t) :
    t.trail.countP (·.action.admits) + s.scheduler.nextTicket =
      s.trail.countP (·.action.admits) + t.scheduler.nextTicket :=
  run.invariant (P := fun t => t.trail.countP (·.action.admits) + s.scheduler.nextTicket =
      s.trail.countP (·.action.admits) + t.scheduler.nextTicket)
    (fun _ _ _ step h => by have := step.counted; omega) (fun _ _ _ h => h) rfl

/-- An audit log that has room for every entry tells which units are live and how each of them
stands, and how often it was tried again since it was reset. An admission is noted for every ticket,
and for nothing else. -/
theorem Run.trail_tells {thresholds : Thresholds} {margin hardLimit : UInt64} {budget : Budget}
    {limits : Limits} {scheduler : Scheduler} {storage : σ} {clock : Nat} {date : Timestamp}
    {capacity : Nat} {entries : List AuditEntry}
    (valid : Budget.new thresholds margin hardLimit = .ok budget)
    (made : Scheduler.new limits budget = .ok scheduler)
    (run : Run ⟨scheduler, storage, [], clock, date⟩ calls t)
    (room : t.trail.length ≤ capacity)
    (kept : ((AuditLog.new capacity).recordAll t.trail).entries = entries) :
    (∀ id, AuditAction.replay ((registeredIn calls id).map (·.status)) (actionsFor entries id) =
        (t.scheduler.graph.unit? id).map (·.status)) ∧
      ((givenBy calls).map (·.ticket) = List.range' 1 (entries.countP (·.action.admits)) ∧
        t.scheduler.nextTicket = entries.countP (·.action.admits) + 1) ∧
      ∀ id u, t.scheduler.graph.unit? id = some u → ∃ r, registeredIn calls id = some r ∧
        u.retryCount.toNat = AuditAction.retries (actionsFor entries id) +
          if .reset ∈ actionsFor entries id then 0 else r.retryCount.toNat := by
  have opened : Opened (σ := σ) ⟨scheduler, storage, [], clock, date⟩ := .new valid made
  rw [recordAll_entries (by simpa [AuditLog.new] using room)] at kept
  obtain rfl : t.trail = entries := kept
  have begun : (⟨scheduler, storage, [], clock, date⟩ : Session σ).scheduler.nextTicket = 1 :=
    opened.nextTicket
  have tells (id : UnitId) : Tells (registeredIn calls) t id := by
    refine run.tells opened (run.registered_once opened) ?_
    rw [Tells, Scheduler.new_eq_ok made]
    exact .nothing _ _
  have numbered := run.numbered opened
  have counted := run.counted
  have tickets := numbered.tickets
  have next := numbered.next
  rw [begun] at tickets next counted
  have all : (givenBy calls).length = t.trail.countP (·.action.admits) := by
    rw [List.countP_nil] at counted
    omega
  rw [all] at tickets next
  exact ⟨fun id => (tells id).status, ⟨tickets, next.trans (Nat.add_comm ..)⟩,
    fun id u live => (tells id).retries u live⟩

/-- `lib` is tried a second time, and then makes room for `app`. -/
def triedCalls : List Command :=
  retriedCalls ++ [.addUnit ⟨"app", .core, .pending, 0, 1000, ∅, 2, false⟩,
    .requestLaunch "app" ⟨"build", 1000⟩ 3, .completed "lib"]

theorem trail_tells_tried : ∃ t : Session Vault, Run narrow (narrow.callsOf triedCalls) t ∧
    actionsFor t.trail "lib" = [.register, .admission, .retry, .promote, .complete] ∧
    actionsFor t.trail "app" = [.register, .enqueue, .promote] ∧
    (t.scheduler.graph.unit? "lib").map (·.status) = some .complete ∧
    (t.scheduler.graph.unit? "app").map (·.status) = some .running ∧
    t.scheduler.nextTicket = 4 := by
  have run := run_callAll narrow triedCalls
  have lib : actionsFor (narrow.callAll triedCalls).trail "lib" =
      [.register, .admission, .retry, .promote, .complete] := by decide +kernel
  have app : actionsFor (narrow.callAll triedCalls).trail "app" =
      [.register, .enqueue, .promote] := by decide +kernel
  obtain ⟨tells, ⟨_, next⟩, _⟩ := Run.trail_tells standard_budget (made_limited rfl) run
    (Nat.le_refl _) rfl
  refine ⟨_, run, lib, app, ?_, ?_, ?_⟩
  · rw [← tells "lib"]
    decide +kernel
  · rw [← tells "app"]
    decide +kernel
  · rw [next]
    decide +kernel

end Session

end BuildAdmission
