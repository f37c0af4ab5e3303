import BuildAdmission.IdMap

namespace BuildAdmission

/-- A finite set of names, kept as the ascending list of its members. -/
structure IdSet where
  toList : List UnitId
  ascending : toList.Pairwise (· < ·)
  deriving DecidableEq

namespace IdSet

def insertName (id : UnitId) : List UnitId → List UnitId
  | [] => [id]
  | x :: rest =>
    if id < x then id :: x :: rest
    else if x < id then x :: insertName id rest
    else x :: rest

theorem mem_insertName {id x : UnitId} {xs : List UnitId} :
    x ∈ insertName id xs ↔ x = id ∨ x ∈ xs := by
  induction xs with
  | nil => simp [insertName]
  | cons y rest ih =>
    unfold insertName
    split
    · simp
    · next hnlt =>
      split
      · simp only [List.mem_cons, ih]
        constructor
        · rintro (h | h | h) <;> simp [h]
        · rintro (h | h | h) <;> simp [h]
      · next hngt =>
        have hid : y = id := String.le_antisymm hnlt hngt
        simp [hid]

theorem pairwise_insertName (id : UnitId) {xs : List UnitId} (h : xs.Pairwise (· < ·)) :
    (insertName id xs).Pairwise (· < ·) := by
  induction xs with
  | nil => simp [insertName]
  | cons y rest ih =>
    have hrest := (List.pairwise_cons.1 h).2
    have hhead := (List.pairwise_cons.1 h).1
    unfold insertName
    split
    · next hlt =>
      refine List.pairwise_cons.2 ⟨?_, h⟩
      intro x hx
      rcases List.mem_cons.1 hx with rfl | hx
      · exact hlt
      · exact String.lt_trans hlt (hhead x hx)
    · split
      · next hgt =>
        refine List.pairwise_cons.2 ⟨?_, ih hrest⟩
        intro x hx
        rcases mem_insertName.1 hx with rfl | hx
        · exact hgt
        · exact hhead x hx
      · exact h

def empty : IdSet := ⟨[], .nil⟩

instance : EmptyCollection IdSet := ⟨empty⟩

instance : Inhabited IdSet := ⟨empty⟩

instance : Membership UnitId IdSet := ⟨fun s id => id ∈ s.toList⟩

instance (id : UnitId) (s : IdSet) : Decidable (id ∈ s) :=
  inferInstanceAs (Decidable (id ∈ s.toList))

def insert (s : IdSet) (id : UnitId) : IdSet :=
  ⟨insertName id s.toList, pairwise_insertName id s.ascending⟩

def erase (s : IdSet) (id : UnitId) : IdSet :=
  ⟨s.toList.filter (· ≠ id), s.ascending.filter _⟩

def ofList (ids : List UnitId) : IdSet := ids.foldl insert empty

def union (s t : IdSet) : IdSet := t.toList.foldl insert s

def isEmpty (s : IdSet) : Bool := s.toList.isEmpty

@[simp] theorem mem_insert {s : IdSet} {id x : UnitId} : x ∈ s.insert id ↔ x = id ∨ x ∈ s :=
  mem_insertName

end IdSet

end BuildAdmission
