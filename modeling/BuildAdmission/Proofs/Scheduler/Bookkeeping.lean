import BuildAdmission.Proofs.Graph.Standing
import BuildAdmission.Proofs.Queue.Entries
import BuildAdmission.Scheduler.Basic

namespace BuildAdmission

open scoped List

variable {standing : UnitId → Option (Status × Int32)} {id : UnitId} {p : Int32}
  {x : Option (Status × Int32)}

/-- The slots are held by the units that run, each with a ticket of its own. -/
structure SlotsMatch (standing : UnitId → Option (Status × Int32)) (running : IdMap Running)
    (limit nextTicket : Nat) : Prop where
  bounded : running.size ≤ limit
  held : ∀ id, (∃ r, running.find? id = some r) ↔ ∃ p, standing id = some (.running, p)
  distinct : ∀ id id' r r', running.find? id = some r → running.find? id' = some r' →
    r.ticket = r'.ticket → id = id'
  issued : ∀ id r, running.find? id = some r → r.ticket < nextTicket

namespace SlotsMatch

variable {running : IdMap Running} {limit nextTicket : Nat}

theorem none_held (limit nextTicket : Nat) : SlotsMatch (fun _ => none) ∅ limit nextTicket := by
  refine ⟨Nat.zero_le _, ?_, ?_, ?_⟩ <;> simp

theorem update (h : SlotsMatch standing running limit nextTicket)
    (before : ∀ p, standing id ≠ some (.running, p)) (after : ∀ p, x ≠ some (.running, p)) :
    SlotsMatch (Function.update standing id x) running limit nextTicket := by
  refine ⟨h.bounded, ?_, h.distinct, h.issued⟩
  intro k
  rw [h.held]
  by_cases hk : k = id
  · subst hk
    simp [before, after]
  · rw [Function.update_of_ne hk]

theorem start (h : SlotsMatch standing running limit nextTicket) (room : running.size < limit)
    (idle : ∀ p, standing id ≠ some (.running, p)) (p : Int32) (task : LaunchTask) (now : Nat) :
    SlotsMatch (Function.update standing id (some (.running, p)))
      (running.insert id ⟨task, nextTicket, now⟩) limit (nextTicket + 1) := by
  refine ⟨Nat.le_trans (IdMap.size_insert_le ..) room, ?_, ?_, ?_⟩
  · intro k
    rw [IdMap.find?_insert]
    by_cases hk : k = id
    · subst hk
      simp
    · rw [if_neg hk, Function.update_of_ne hk]
      exact h.held k
  · intro k k' r r' hr hr' same
    rw [IdMap.find?_insert] at hr hr'
    split at hr <;> split at hr'
    · next hk hk' => exact hk.trans hk'.symm
    · cases hr
      exact absurd same (Nat.ne_of_gt (h.issued k' r' hr'))
    · cases hr'
      exact absurd same (Nat.ne_of_lt (h.issued k r hr))
    · exact h.distinct k k' r r' hr hr' same
  · apply IdMap.forall_insert
    · intro k r hr
      exact Nat.lt_succ_of_lt (h.issued k r hr)
    · exact Nat.lt_succ_self nextTicket

theorem release (h : SlotsMatch standing running limit nextTicket)
    (after : ∀ p, x ≠ some (.running, p)) :
    SlotsMatch (Function.update standing id x) (running.erase id) limit nextTicket := by
  refine ⟨Nat.le_trans (IdMap.size_erase_le ..) h.bounded, ?_, ?_, ?_⟩
  · intro k
    rw [IdMap.find?_erase]
    by_cases hk : k = id
    · subst hk
      simp [after]
    · rw [if_neg hk, Function.update_of_ne hk]
      exact h.held k
  · intro k k' r r' hr hr'
    rw [IdMap.find?_erase] at hr hr'
    split at hr <;> split at hr'
    · cases hr
    · cases hr
    · cases hr'
    · exact h.distinct k k' r r' hr hr'
  · exact IdMap.forall_erase h.issued

theorem modify (h : SlotsMatch standing running limit nextTicket) {f : Running → Running}
    (hf : ∀ r, (f r).ticket = r.ticket) :
    SlotsMatch standing (running.modify id f) limit nextTicket := by
  have ticket (k : UnitId) (r : Running) (hr : (running.modify id f).find? k = some r) :
      ∃ r', running.find? k = some r' ∧ r.ticket = r'.ticket := by
    rw [IdMap.find?_modify] at hr
    split at hr
    · obtain ⟨r', hr', rfl⟩ := Option.map_eq_some_iff.1 hr
      exact ⟨r', hr', hf r'⟩
    · exact ⟨r, hr, rfl⟩
  refine ⟨Nat.le_trans (Nat.le_of_eq (IdMap.size_modify ..)) h.bounded, ?_, ?_, ?_⟩
  · intro k
    rw [← h.held, IdMap.find?_modify]
    split <;> simp
  · intro k k' r r' hr hr' same
    obtain ⟨s, hs, hrs⟩ := ticket k r hr
    obtain ⟨s', hs', hrs'⟩ := ticket k' r' hr'
    exact h.distinct k k' s s' hs hs' (hrs.symm.trans (same.trans hrs'))
  · intro k r hr
    obtain ⟨s, hs, hrs⟩ := ticket k r hr
    exact hrs ▸ h.issued k s hs

end SlotsMatch

/-- The queue holds one launch of every unit that waits, with the unit's priority and a number of
its own. -/
structure QueueMatches (standing : UnitId → Option (Status × Int32)) (entries : List QueuedLaunch)
    (nextSeq : Nat) : Prop where
  once : (entries.map (·.unitId)).Nodup
  waiting : ∀ id p, (∃ l ∈ entries, l.unitId = id ∧ l.priority = p) ↔
    standing id = some (.queued, p)
  numbered : (entries.map (·.seq)).Nodup
  issued : ∀ l ∈ entries, l.seq < nextSeq

namespace QueueMatches

variable {entries entries' : List QueuedLaunch} {launch : QueuedLaunch} {nextSeq : Nat}

theorem none_waiting (nextSeq : Nat) : QueueMatches (fun _ => none) [] nextSeq := by
  refine ⟨.nil, ?_, .nil, ?_⟩ <;> simp

theorem perm (h : QueueMatches standing entries nextSeq) (same : entries ~ entries') :
    QueueMatches standing entries' nextSeq := by
  refine ⟨(same.map _).nodup_iff.1 h.once, ?_, (same.map _).nodup_iff.1 h.numbered, ?_⟩
  · intro id p
    simp only [← same.mem_iff]
    exact h.waiting id p
  · exact fun l hl => h.issued l (same.mem_iff.2 hl)

theorem update (h : QueueMatches standing entries nextSeq)
    (before : ∀ p, standing id ≠ some (.queued, p)) (after : ∀ p, x ≠ some (.queued, p)) :
    QueueMatches (Function.update standing id x) entries nextSeq := by
  refine ⟨h.once, ?_, h.numbered, h.issued⟩
  intro k p
  rw [h.waiting]
  by_cases hk : k = id
  · subst hk
    simp [before, after]
  · rw [Function.update_of_ne hk]

theorem ne_queued (h : QueueMatches standing entries nextSeq)
    (absent : ∀ l ∈ entries, l.unitId ≠ id) (p : Int32) : standing id ≠ some (.queued, p) := by
  intro waits
  obtain ⟨l, hl, hid, _⟩ := (h.waiting id p).2 waits
  exact absent l hl hid

theorem join (h : QueueMatches standing entries nextSeq) (idle : ∀ p, standing id ≠ some (.queued, p))
    (p : Int32) (task : LaunchTask) :
    QueueMatches (Function.update standing id (some (.queued, p)))
      (⟨id, task, p, nextSeq⟩ :: entries) (nextSeq + 1) := by
  have absent (l : QueuedLaunch) (hl : l ∈ entries) : l.unitId ≠ id := by
    rintro rfl
    exact idle l.priority ((h.waiting l.unitId l.priority).1 ⟨l, hl, rfl, rfl⟩)
  refine ⟨?_, ?_, ?_, ?_⟩
  · simpa using ⟨absent, h.once⟩
  · intro k q
    by_cases hk : k = id
    · subst hk
      simpa using fun l hl hid => absurd hid (absent l hl)
    · rw [Function.update_of_ne hk, ← h.waiting]
      simp [Ne.symm hk]
  · refine List.nodup_cons.2 ⟨?_, h.numbered⟩
    intro hmem
    obtain ⟨l, hl, hseq⟩ := List.mem_map.1 hmem
    exact absurd hseq (Nat.ne_of_lt (h.issued l hl))
  · intro l hl
    rcases List.mem_cons.1 hl with rfl | hl
    · exact Nat.lt_succ_self _
    · exact Nat.lt_succ_of_lt (h.issued l hl)

theorem leave (h : QueueMatches standing (launch :: entries) nextSeq)
    (after : ∀ p, x ≠ some (.queued, p)) :
    QueueMatches (Function.update standing launch.unitId x) entries nextSeq := by
  have absent : ∀ l ∈ entries, l.unitId ≠ launch.unitId := by
    simpa using (List.nodup_cons.1 h.once).1
  refine ⟨(List.nodup_cons.1 h.once).2, ?_, (List.nodup_cons.1 h.numbered).2,
    fun l hl => h.issued l (List.mem_cons_of_mem _ hl)⟩
  intro k p
  by_cases hk : k = launch.unitId
  · subst hk
    simpa [after] using fun l hl hid => absurd hid (absent l hl)
  · rw [Function.update_of_ne hk, ← h.waiting]
    simp [Ne.symm hk]

end QueueMatches

end BuildAdmission
