import BuildAdmission.Proofs.Session.Script
import BuildAdmission.Proofs.Session.Turnover

namespace BuildAdmission

/-- The last of the admissions that gave the unit a slot. -/
def Admission.lastOf (as : List Admission) (id : UnitId) : Option Admission :=
  as.reverse.find? (·.unit.id = id)

theorem Admission.lastOf_snoc (as : List Admission) (a : Admission) (id : UnitId) :
    lastOf (as ++ [a]) id = if a.unit.id = id then some a else lastOf as id := by
  by_cases same : a.unit.id = id <;> simp [lastOf, same]

namespace Call

variable {σ : Type}

/-- The call was made with an outcome of the admission with that ticket, and has ended the run. -/
def Applies (c : Call σ) (id : UnitId) (ticket : Nat) : Prop :=
  (∃ outcome, c.command = .applyOutcome id ticket outcome) ∧
    ∃ report, c.answer = .ok (.ended (some report))

end Call

namespace Session

variable {σ : Type} [Storage σ] {m n s t : Session σ} {e : Event} {es : List Event}
  {calls earlier later : List (Call σ)} {as as' : List Admission} {c : Command} {id : UnitId}
  {ticket : Nat}

open Admission

/-- The admissions that the calls hand out, in order. -/
def givenBy (calls : List (Call σ)) : List Admission := calls.flatMap (·.given)

omit [Storage σ] in
theorem givenBy_snoc (calls : List (Call σ)) (c : Call σ) :
    givenBy (calls ++ [c]) = givenBy calls ++ c.given := by
  simp [givenBy]

/-- The unit runs, and the last admission that was handed to it has that ticket. -/
structure InForce (earlier : List (Call σ)) (t : Session σ) (id : UnitId) (ticket : Nat) :
    Prop where
  running : ∃ u, t.scheduler.graph.unit? id = some u ∧ u.status = .running
  last : ∃ a, lastOf (givenBy earlier) id = some a ∧ a.ticket = ticket

/-! ### Tickets are handed out one by one -/

structure Numbered (m : Session σ) (as : List Admission) (n : Session σ) : Prop where
  tickets : as.map (·.ticket) = List.range' m.scheduler.nextTicket as.length
  next : n.scheduler.nextTicket = m.scheduler.nextTicket + as.length

omit [Storage σ] in
theorem Numbered.refl (m : Session σ) : Numbered m [] m := ⟨rfl, rfl⟩

omit [Storage σ] in
theorem Numbered.trans (h : Numbered m as n) (h' : Numbered n as' t) :
    Numbered m (as ++ as') t := by
  constructor
  · rw [List.map_append, h.tickets, h'.tickets, h.next, List.range'_append_1, List.length_append]
  · rw [h'.next, h.next, List.length_append, Nat.add_assoc]

theorem Step.numbered (h : Step m e n) : Numbered m e.admission?.toList n := by
  cases h with
  | split =>
      refine ⟨rfl, ?_⟩
      rw [foldl_log_scheduler]
      rfl
  | _ => exact ⟨rfl, rfl⟩

theorem Trace.numbered (h : Trace m es n) : Numbered m (Event.admissions es) n := by
  induction h with
  | nil => exact .refl _
  | cons step rest ih =>
      rw [Event.admissions_cons]
      exact step.numbered.trans ih

/-- What a call hands out is what its events admit, also if it is refused. -/
theorem call_given (kept : t.scheduler.Kept) (c : Command) :
    ∃ es, Trace t es (t.call c).after ∧ Event.admissions es = (t.call c).given := by
  obtain ⟨es, _, trace, given⟩ := call_script_given kept c
  exact ⟨es, trace, given⟩

theorem Run.numbered (run : Run s calls t) (opened : Opened s) : Numbered s (givenBy calls) t := by
  induction run with
  | nil => exact .refl s
  | wait rest clock date ih => exact ⟨ih.tickets, ih.next⟩
  | call rest c ih =>
      obtain ⟨es, trace, made⟩ := call_given (rest.kept opened) c
      rw [givenBy_snoc, ← made]
      exact ih.trans trace.numbered

/-! ### A slot is that of the unit's last admission -/

def Credited (as : List Admission) (m : Session σ) : Prop :=
  ∀ id r, m.scheduler.running.find? id = some r → ∃ a, lastOf as id = some a ∧ a.ticket = r.ticket

omit [Storage σ] in
theorem Credited.admit (hm : Credited as m) {a : Admission} {r : Running}
    (running : n.scheduler.running = m.scheduler.running.insert a.unit.id r)
    (same : a.ticket = r.ticket) : Credited (as ++ [a]) n := by
  intro k r' hr
  rw [running, IdMap.find?_insert] at hr
  rw [lastOf_snoc]
  split at hr
  · next hk =>
    cases hr
    exact ⟨a, if_pos hk.symm, same⟩
  · next hk =>
    rw [if_neg (Ne.symm hk)]
    exact hm k r' hr

theorem Step.credited (h : Step m e n) (keyed : m.scheduler.graph.Keyed) (hm : Credited as m) :
    Credited (as ++ e.admission?.toList) n := by
  cases h with
  | @grant id u task latest storage live idle gate room read =>
      cases keyed.live id u live
      exact hm.admit rfl rfl
  | @promote launch queue u latest storage room pop live queued gate read =>
      have named := keyed.live launch.unitId u live
      exact hm.admit (congrArg (m.scheduler.running.insert · _) named.symm) rfl
  | split live idle free accepted =>
      rw [Credited, foldl_log_scheduler]
      exact (List.append_nil as).symm ▸ hm
  | suspend | complete | retry | fail =>
      exact (List.append_nil as).symm ▸ IdMap.forall_erase hm
  | progress live status slot =>
      exact (List.append_nil as).symm ▸ IdMap.forall_modify hm fun _ _ same => same
  | _ => exact (List.append_nil as).symm ▸ hm

theorem Trace.credited (h : Trace m es n) (kept : m.scheduler.Kept) (hm : Credited as m) :
    Credited (as ++ Event.admissions es) n := by
  induction h generalizing as with
  | nil => simpa using hm
  | cons step rest ih =>
      rw [Event.admissions_cons, ← List.append_assoc]
      exact ih (step.kept kept) (step.credited kept.keyed hm)

theorem Opened.nextTicket (h : Opened s) : s.scheduler.nextTicket = 1 := by
  cases h with
  | new valid made => exact congrArg Scheduler.nextTicket (Scheduler.new_eq_ok made)
  | restored valid made =>
      obtain ⟨_, _, _, _, _, _, _, _, _, begun, rfl, _⟩ := Scheduler.restore_eq_ok made
      exact congrArg Scheduler.nextTicket (Scheduler.new_eq_ok begun)

theorem Opened.credited (h : Opened s) : Credited [] s := by
  rw [Credited, h.started.running]
  simp

theorem Run.credited (run : Run s calls t) (opened : Opened s) : Credited (givenBy calls) t := by
  induction run with
  | nil => exact opened.credited
  | wait rest clock date ih => exact ih
  | call rest c ih =>
      have kept := rest.kept opened
      obtain ⟨es, trace, made⟩ := call_given kept c
      rw [givenBy_snoc, ← made]
      exact trace.credited kept ih

omit [Storage σ] in
theorem isCurrent_iff (kept : t.scheduler.Kept) (credited : Credited (givenBy earlier) t) :
    t.scheduler.isCurrent id ticket = true ↔ InForce earlier t id ticket := by
  rw [Scheduler.isCurrent, Option.any_eq_true]
  constructor
  · rintro ⟨r, slot, current⟩
    obtain ⟨u, live, status⟩ := kept.running_iff.1 ⟨r, slot⟩
    obtain ⟨a, last, same⟩ := credited id r slot
    exact ⟨⟨u, live, status⟩, a, last, same.trans (of_decide_eq_true current)⟩
  · rintro ⟨⟨u, live, status⟩, a, last, rfl⟩
    obtain ⟨r, slot⟩ := kept.running_iff.2 ⟨u, live, status⟩
    obtain ⟨b, last', same⟩ := credited id r slot
    cases last.symm.trans last'
    exact ⟨r, slot, decide_eq_true same.symm⟩

/-! ### An admission that is over -/

/-- The unit's admission with that ticket was made and is over. -/
structure Spent (id : UnitId) (ticket : Nat) (m : Session σ) : Prop where
  issued : ticket < m.scheduler.nextTicket
  ended : ∀ k r, m.scheduler.running.find? k = some r → k = id → r.ticket ≠ ticket

/-- A later admission has a later ticket, so that it does not bring back the one that is over. -/
theorem Step.spent (h : Step m e n) (hm : Spent id ticket m) : Spent id ticket n := by
  have issued : ticket < n.scheduler.nextTicket :=
    Nat.lt_of_lt_of_le hm.issued (h.numbered.next ▸ Nat.le_add_right ..)
  refine ⟨issued, ?_⟩
  cases h with
  | split live idle free accepted =>
      rw [foldl_log_scheduler]
      exact hm.ended
  | grant | promote => exact IdMap.forall_insert hm.ended fun _ => Nat.ne_of_gt hm.issued
  | suspend | complete | retry | fail => exact IdMap.forall_erase hm.ended
  | progress live status slot => exact IdMap.forall_modify hm.ended fun _ _ ended => ended
  | _ => exact hm.ended

theorem Trace.spent (h : Trace m es n) (hm : Spent id ticket m) : Spent id ticket n :=
  h.invariant (P := Spent id ticket) (fun _ _ _ step => step.spent) hm

omit [Storage σ] in
theorem Spent.not_current (h : Spent id ticket t) : t.scheduler.isCurrent id ticket = false := by
  rw [Scheduler.isCurrent, Option.any_eq_false]
  exact fun r slot => decide_eq_false (h.ended id r slot rfl)

theorem Step.slot_ended (h : Step m e n) (ends : e.ends? = some id) :
    n.scheduler.running.find? id = none := by
  cases h with
  | suspend | complete | retry | fail =>
      cases ends
      exact (IdMap.find?_erase ..).trans (if_pos rfl)
  | _ => cases ends

theorem call_applies (kept : t.scheduler.Kept) (h : (t.call c).Applies id ticket) :
    t.scheduler.isCurrent id ticket = true ∧ Spent id ticket (t.call c).after := by
  obtain ⟨⟨outcome, rfl⟩, report, answered⟩ := h
  have hrun := perform_applyOutcome id ticket outcome t
  have applied : (Command.applyOutcome id ticket outcome).perform.run t =
      (.ok (.ended (some report)), _) := Prod.ext answered rfl
  cases current : t.scheduler.isCurrent id ticket with
  | false =>
      rw [current, applied] at hrun
      cases hrun
  | true =>
      refine ⟨rfl, ?_⟩
      rw [current, applied, if_pos rfl] at hrun
      obtain ⟨_, first, _, concludes, ends⟩ := ofOutcome_concludes hrun.symm
      obtain ⟨es, ended⟩ := concludes.ended
      obtain ⟨r, slot, same⟩ := (Option.any_eq_true ..).1 current
      cases ended.trace with
      | @cons _ n _ _ _ step rest =>
          refine rest.spent ⟨?_, ?_⟩
          · rw [step.numbered.next, ← of_decide_eq_true same]
            exact Nat.lt_add_right _ (kept.slots.issued id r slot)
          · rintro _ r' slot' rfl
            cases (step.slot_ended ends).symm.trans slot'

/-! ### Runs -/

/-- Every call of a run was made at the end of a run. -/
theorem Run.at_call (run : Run s calls t) {c : Call σ} (h : calls = earlier ++ c :: later) :
    Run s earlier c.before ∧ c = c.before.call c.command := by
  induction run generalizing later with
  | nil => simp at h
  | wait rest clock date ih => exact ih h
  | @call calls t rest command ih =>
      obtain rfl | ⟨between, last, rfl⟩ := List.eq_nil_or_concat later
      · obtain ⟨rfl, same⟩ := List.append_inj' h rfl
        cases same
        exact ⟨rest, rfl⟩
      · rw [List.concat_eq_append, ← List.cons_append, ← List.append_assoc] at h
        exact ih (List.append_inj' h rfl).1

theorem Run.applied (run : Run s calls t) (opened : Opened s) :
    (calls.Pairwise fun c c' => ∀ id ticket, c.Applies id ticket → ¬ c'.Applies id ticket) ∧
      ∀ c ∈ calls, ∀ id ticket, c.Applies id ticket → Spent id ticket t := by
  induction run with
  | nil => simp
  | wait rest clock date ih =>
      exact ⟨ih.1, fun c hc id ticket applies =>
        ⟨(ih.2 c hc id ticket applies).issued, (ih.2 c hc id ticket applies).ended⟩⟩
  | @call calls t rest command ih =>
      obtain ⟨once, spent⟩ := ih
      have kept := rest.kept opened
      obtain ⟨es, trace⟩ := call_trace t command
      constructor
      · refine List.pairwise_append.2 ⟨once, List.pairwise_singleton .., ?_⟩
        intro c hc c' hc' id ticket applies applies'
        cases List.mem_singleton.1 hc'
        have ended := (spent c hc id ticket applies).not_current
        cases ended.symm.trans (call_applies kept applies').1
      · refine List.forall_mem_append.2 ⟨?_, List.forall_mem_singleton.2 ?_⟩
        · exact fun c hc id ticket applies => trace.spent (spent c hc id ticket applies)
        · exact fun id ticket applies => (call_applies kept applies).2

/-- Every admission has a later ticket than those before it, and no other tickets are issued. Of the
outcomes that are reported for an admission at most one is applied, while the admission is in force:
it does what ending the run does. Any other outcome does nothing. -/
theorem Run.outcomes_apply_once (run : Run s calls t) (opened : Opened s) :
    (((givenBy calls).map (·.ticket)).Pairwise (· < ·) ∧
        t.scheduler.nextTicket = s.scheduler.nextTicket + (givenBy calls).length) ∧
      (calls.Pairwise fun c c' => ∀ id ticket, c.Applies id ticket → ¬ c'.Applies id ticket) ∧
      ∀ earlier c later id ticket outcome, calls = earlier ++ c :: later →
        c.command = .applyOutcome id ticket outcome →
          (c.Applies id ticket → InForce earlier c.before id ticket) ∧
          (InForce earlier c.before id ticket →
            c.answer = (c.before.call (.ofOutcome id outcome)).answer ∧
              c.after = (c.before.call (.ofOutcome id outcome)).after) ∧
          (¬ InForce earlier c.before id ticket →
            c.answer = .ok (.ended none) ∧ c.after = c.before) := by
  refine ⟨⟨?_, (run.numbered opened).next⟩, (run.applied opened).1, ?_⟩
  · rw [(run.numbered opened).tickets]
    exact List.pairwise_lt_range'
  · intro earlier c later id ticket outcome hcalls asked
    obtain ⟨before, made⟩ := run.at_call hcalls
    have kept := before.kept opened
    have current : c.before.scheduler.isCurrent id ticket = true ↔
        InForce earlier c.before id ticket := isCurrent_iff kept (before.credited opened)
    have hrun := perform_applyOutcome id ticket outcome c.before
    rw [asked] at made
    refine ⟨fun applies => ?_, fun force => ?_, fun ended => ?_⟩
    · rw [made] at applies
      exact current.1 (call_applies kept applies).1
    · rw [if_pos (current.2 force)] at hrun
      rw [made]
      exact ⟨congrArg Prod.fst hrun, congrArg Prod.snd hrun⟩
    · rw [if_neg fun h => ended (current.1 h)] at hrun
      rw [made]
      exact ⟨congrArg Prod.fst hrun, congrArg Prod.snd hrun⟩

/-- `lib` fails and gets its slot back at once, as its second admission. -/
def retriedCalls : List Command :=
  [.addUnit ⟨"lib", .core, .pending, 0, 1000, ∅, 0, false⟩,
    .requestLaunch "lib" ⟨"build", 1000⟩ 3, .failed "lib" "crashed"]

def retried : Session Vault := narrow.callAll retriedCalls

theorem outcomes_apply_once_retried :
    (retried.call (.applyOutcome "lib" 2 .completed)).Applies "lib" 2 ∧
      InForce (narrow.callsOf retriedCalls) retried "lib" 2 ∧
      (retried.call (.applyOutcome "lib" 1 .completed)).answer = .ok (.ended none) := by
  have applies : (retried.call (.applyOutcome "lib" 2 .completed)).Applies "lib" 2 :=
    ⟨⟨_, rfl⟩, ⟨"lib", .complete, []⟩, by decide +kernel⟩
  have run := run_callAll narrow retriedCalls
  obtain ⟨_, _, current⟩ :=
    (run.call (.applyOutcome "lib" 2 .completed)).outcomes_apply_once opened_narrow
  obtain ⟨_, _, late⟩ :=
    (run.call (.applyOutcome "lib" 1 .completed)).outcomes_apply_once opened_narrow
  have force := (current _ _ [] "lib" 2 .completed rfl rfl).1 applies
  refine ⟨applies, force, ((late _ _ [] "lib" 1 .completed rfl rfl).2.2 ?_).1⟩
  rintro ⟨_, a, first, one⟩
  obtain ⟨_, b, last, two⟩ := force
  cases first.symm.trans last
  cases one.symm.trans two

end Session

end BuildAdmission
