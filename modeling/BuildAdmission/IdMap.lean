namespace BuildAdmission

/-- The name of a unit. Names are compared by code point. -/
abbrev UnitId := String

/-- A finite map from names. The entries stand in ascending order of name, so two maps with the
same content are equal. -/
structure IdMap (α : Type) where
  entries : List (UnitId × α)
  ascending : entries.Pairwise (fun a b => a.1 < b.1)
  deriving DecidableEq

namespace IdMap

variable {α β : Type}

def insertEntry (id : UnitId) (a : α) : List (UnitId × α) → List (UnitId × α)
  | [] => [(id, a)]
  | e :: rest =>
    if id < e.1 then (id, a) :: e :: rest
    else if e.1 < id then e :: insertEntry id a rest
    else (id, a) :: rest

theorem fst_mem_of_mem_insertEntry {id : UnitId} {a : α} {es : List (UnitId × α)}
    {e : UnitId × α} (h : e ∈ insertEntry id a es) : e.1 = id ∨ e ∈ es := by
  induction es with
  | nil => simp_all [insertEntry]
  | cons x rest ih =>
    unfold insertEntry at h
    split at h
    · rcases List.mem_cons.1 h with rfl | h
      · exact .inl rfl
      · exact .inr h
    · split at h
      · rcases List.mem_cons.1 h with rfl | h
        · exact .inr (List.mem_cons_self ..)
        · exact (ih h).imp (fun h => h) (List.mem_cons_of_mem _)
      · rcases List.mem_cons.1 h with rfl | h
        · exact .inl rfl
        · exact .inr (List.mem_cons_of_mem _ h)

theorem pairwise_insertEntry (id : UnitId) (a : α) {es : List (UnitId × α)}
    (h : es.Pairwise (fun x y => x.1 < y.1)) :
    (insertEntry id a es).Pairwise (fun x y => x.1 < y.1) := by
  induction es with
  | nil => simp [insertEntry]
  | cons e rest ih =>
    have hrest := (List.pairwise_cons.1 h).2
    have hhead := (List.pairwise_cons.1 h).1
    unfold insertEntry
    split
    · next hlt =>
      refine List.pairwise_cons.2 ⟨?_, h⟩
      intro x hx
      rcases List.mem_cons.1 hx with rfl | hx
      · exact hlt
      · exact String.lt_trans hlt (hhead x hx)
    · next hnlt =>
      split
      · next hgt =>
        refine List.pairwise_cons.2 ⟨?_, ih hrest⟩
        intro x hx
        rcases fst_mem_of_mem_insertEntry hx with hid | hx
        · exact hid ▸ hgt
        · exact hhead x hx
      · next hngt =>
        have hid : e.1 = id := String.le_antisymm hnlt hngt
        exact List.pairwise_cons.2 ⟨fun x hx => hid ▸ hhead x hx, hrest⟩

def empty : IdMap α := ⟨[], .nil⟩

instance : EmptyCollection (IdMap α) := ⟨empty⟩

instance : Inhabited (IdMap α) := ⟨empty⟩

def find? (m : IdMap α) (id : UnitId) : Option α := m.entries.lookup id

def contains (m : IdMap α) (id : UnitId) : Bool := (m.find? id).isSome

/-- A name that is present gets the new value. -/
def insert (m : IdMap α) (id : UnitId) (a : α) : IdMap α :=
  ⟨insertEntry id a m.entries, pairwise_insertEntry id a m.ascending⟩

def erase (m : IdMap α) (id : UnitId) : IdMap α :=
  ⟨m.entries.filter (fun e => e.1 ≠ id), m.ascending.filter _⟩

def mapValues (f : UnitId → α → β) (m : IdMap α) : IdMap β :=
  ⟨m.entries.map (fun e => (e.1, f e.1 e.2)), by simpa [List.pairwise_map] using m.ascending⟩

def modify (m : IdMap α) (id : UnitId) (f : α → α) : IdMap α :=
  m.mapValues (fun k a => if k = id then f a else a)

/-- Of two entries with one name the later counts. -/
def ofList (es : List (UnitId × α)) : IdMap α :=
  es.foldl (fun m e => m.insert e.1 e.2) empty

def keys (m : IdMap α) : List UnitId := m.entries.map (·.1)

def values (m : IdMap α) : List α := m.entries.map (·.2)

def size (m : IdMap α) : Nat := m.entries.length

def isEmpty (m : IdMap α) : Bool := m.entries.isEmpty

end IdMap

end BuildAdmission
