import BuildAdmission.IdMap
import Mathlib.Data.List.Induction
import Mathlib.Data.List.Nodup

namespace BuildAdmission.IdMap

variable {α β : Type}

theorem ext_entries {m n : IdMap α} (h : m.entries = n.entries) : m = n := by
  cases m; cases n; simp_all

/-! ### Looking up -/

theorem nodup_keys (m : IdMap α) : m.keys.Nodup := by
  rw [keys, List.nodup_iff_pairwise_ne, List.pairwise_map]
  refine m.ascending.imp ?_
  intro a b h he
  exact String.lt_irrefl b.1 (he ▸ h)

theorem nodup_entries (m : IdMap α) : m.entries.Nodup := List.Nodup.of_map _ m.nodup_keys

theorem lookup_eq_some_of_mem {es : List (UnitId × α)} (hn : (es.map (·.1)).Nodup)
    {id : UnitId} {a : α} (h : (id, a) ∈ es) : es.lookup id = some a := by
  induction es with
  | nil => simp at h
  | cons e rest ih =>
      obtain ⟨k, b⟩ := e
      rw [List.map_cons, List.nodup_cons] at hn
      rcases List.mem_cons.1 h with he | h
      · cases he
        exact List.lookup_cons_self
      · have hne : id ≠ k := fun he => hn.1 (List.mem_map.2 ⟨_, h, he⟩)
        rw [List.lookup_cons, beq_false_of_ne hne]
        exact ih hn.2 h

theorem find?_eq_some_iff {m : IdMap α} {id : UnitId} {a : α} :
    m.find? id = some a ↔ (id, a) ∈ m.entries := by
  constructor
  · intro h
    obtain ⟨l₁, l₂, he, _⟩ := List.lookup_eq_some_iff.1 h
    rw [he]
    simp
  · exact lookup_eq_some_of_mem m.nodup_keys

theorem find?_eq_none_iff {m : IdMap α} {id : UnitId} : m.find? id = none ↔ id ∉ m.keys := by
  rw [find?, List.lookup_eq_none_iff, keys, List.mem_map]
  constructor
  · rintro h ⟨e, he, rfl⟩
    simpa using h e he
  · intro h e he
    by_contra hb
    exact h ⟨e, he, (by simpa using hb : id = e.1).symm⟩

theorem mem_keys_iff {m : IdMap α} {id : UnitId} : id ∈ m.keys ↔ ∃ a, m.find? id = some a := by
  cases h : m.find? id with
  | none => simpa using find?_eq_none_iff.1 h
  | some a => simpa using by_contra fun hk => by simp [find?_eq_none_iff.2 hk] at h

theorem mem_values_iff {m : IdMap α} {a : α} : a ∈ m.values ↔ ∃ id, m.find? id = some a := by
  simp [values, find?_eq_some_iff]

section

variable {m : IdMap α} {key : α → UnitId}

theorem map_values_eq_keys (h : ∀ id a, m.find? id = some a → key a = id) :
    m.values.map key = m.keys := by
  rw [values, keys, List.map_map]
  apply List.map_congr_left
  rintro ⟨id, a⟩ he
  exact h id a (find?_eq_some_iff.2 he)

theorem pairwise_values (h : ∀ id a, m.find? id = some a → key a = id) :
    m.values.Pairwise (key · ≠ key ·) := by
  rw [← List.pairwise_map (f := key) (R := (· ≠ ·)), map_values_eq_keys h,
    ← List.nodup_iff_pairwise_ne]
  exact m.nodup_keys

end

theorem contains_iff {m : IdMap α} {id : UnitId} :
    m.contains id = true ↔ ∃ a, m.find? id = some a := by
  rw [contains, Option.isSome_iff_exists]

theorem contains_eq_false_iff {m : IdMap α} {id : UnitId} :
    m.contains id = false ↔ m.find? id = none := by
  rw [contains, Option.isSome_eq_false_iff, Option.isNone_iff_eq_none]

theorem ext {m n : IdMap α} (h : ∀ id, m.find? id = n.find? id) : m = n := by
  apply ext_entries
  apply List.Perm.eq_of_pairwise _ m.ascending n.ascending
  · apply (List.perm_ext_iff_of_nodup _ _).2
    · rintro ⟨id, a⟩
      rw [← find?_eq_some_iff, ← find?_eq_some_iff, h]
    · exact m.nodup_entries
    · exact n.nodup_entries
  · intro a b _ _ hab hba
    exact absurd hab (String.lt_asymm hba)

/-! ### What the operations do to a look-up -/

@[simp] theorem find?_empty (id : UnitId) : (∅ : IdMap α).find? id = none := rfl

theorem lookup_insertEntry (id k : UnitId) (a : α) (es : List (UnitId × α)) :
    (insertEntry id a es).lookup k = if k = id then some a else es.lookup k := by
  induction es with
  | nil => by_cases h : k = id <;> simp [insertEntry, h]
  | cons e rest ih =>
      obtain ⟨x, b⟩ := e
      unfold insertEntry
      split
      · by_cases h : k = id
        · simp [h]
        · rw [List.lookup_cons, beq_false_of_ne h, if_neg h]
      · next hnlt =>
        split
        · next hgt =>
          have hne : id ≠ x := fun he => String.lt_irrefl x (he ▸ hgt)
          rw [List.lookup_cons, List.lookup_cons, ih]
          by_cases h : k = id
          · subst k
            rw [beq_false_of_ne hne, if_pos rfl]
          · rw [if_neg h, if_neg h]
        · next hngt =>
          have hid : x = id := String.le_antisymm hnlt hngt
          by_cases h : k = id
          · simp [h]
          · rw [List.lookup_cons, List.lookup_cons, hid, beq_false_of_ne h, if_neg h]

theorem find?_insert (m : IdMap α) (id : UnitId) (a : α) (k : UnitId) :
    (m.insert id a).find? k = if k = id then some a else m.find? k :=
  lookup_insertEntry id k a m.entries

@[simp] theorem find?_insert_self (m : IdMap α) (id : UnitId) (a : α) :
    (m.insert id a).find? id = some a := by
  simp [find?_insert]

theorem find?_erase (m : IdMap α) (id k : UnitId) :
    (m.erase id).find? k = if k = id then none else m.find? k := by
  by_cases hk : k = id
  · subst k
    simp [find?_eq_none_iff, erase, keys]
  · rw [if_neg hk]
    apply Option.ext
    intro a
    simp [find?_eq_some_iff, erase, hk]

theorem find?_mapValues (f : UnitId → α → β) (m : IdMap α) (k : UnitId) :
    (m.mapValues f).find? k = (m.find? k).map (f k) := by
  simp only [find?, mapValues]
  induction m.entries with
  | nil => rfl
  | cons e rest ih =>
      obtain ⟨x, a⟩ := e
      by_cases h : k = x
      · subst h
        simp
      · simp [List.lookup_cons, ih, beq_false_of_ne h]

theorem values_mapValues (f : α → β) (m : IdMap α) :
    (m.mapValues fun _ => f).values = m.values.map f := by
  simp [mapValues, values]

theorem find?_modify (m : IdMap α) (id : UnitId) (f : α → α) (k : UnitId) :
    (m.modify id f).find? k = if k = id then (m.find? k).map f else m.find? k := by
  rw [modify, find?_mapValues]
  by_cases h : k = id
  · simp [h]
  · cases m.find? k <;> simp [h]

section

variable {m : IdMap α} {id : UnitId} {a : α} {P : UnitId → α → Prop}

theorem forall_insert (h : ∀ k b, m.find? k = some b → P k b) (hid : P id a) :
    ∀ k b, (m.insert id a).find? k = some b → P k b := by
  intro k b hb
  rw [find?_insert] at hb
  split at hb
  · next hk =>
    cases hb
    rw [hk]
    exact hid
  · exact h k b hb

theorem forall_erase (h : ∀ k b, m.find? k = some b → P k b) :
    ∀ k b, (m.erase id).find? k = some b → P k b := by
  intro k b hb
  rw [find?_erase] at hb
  split at hb
  · cases hb
  · exact h k b hb

theorem forall_modify {f : α → α} (h : ∀ k b, m.find? k = some b → P k b)
    (hf : ∀ k b, P k b → P k (f b)) : ∀ k b, (m.modify id f).find? k = some b → P k b := by
  intro k b hb
  rw [find?_modify] at hb
  split at hb
  · obtain ⟨c, hc, rfl⟩ := Option.map_eq_some_iff.1 hb
    exact hf k c (h k c hc)
  · exact h k b hb

end

theorem modify_modify (m : IdMap α) (id : UnitId) (f g : α → α) :
    (m.modify id f).modify id g = m.modify id (g ∘ f) := by
  apply ext
  intro k
  by_cases h : k = id <;> simp [find?_modify, h]

theorem modify_eq_self {m : IdMap α} {id : UnitId} {f : α → α}
    (h : ∀ a, m.find? id = some a → f a = a) : m.modify id f = m := by
  apply ext
  intro k
  rw [find?_modify]
  split
  · next hk =>
    subst k
    cases hm : m.find? id with
    | none => rfl
    | some a => rw [Option.map_some, h a hm]
  · rfl

theorem modify_comm (m : IdMap α) {id k : UnitId} (h : k ≠ id) (f g : α → α) :
    (m.modify k f).modify id g = (m.modify id g).modify k f := by
  apply ext
  intro i
  by_cases hi : i = id
  · subst hi
    simp [find?_modify, h.symm]
  · simp [find?_modify, hi]

theorem erase_comm (m : IdMap α) (id k : UnitId) : (m.erase id).erase k = (m.erase k).erase id := by
  apply ext
  intro i
  simp only [find?_erase]
  split <;> split <;> rfl

theorem erase_insert (m : IdMap α) {id k : UnitId} (h : k ≠ id) (a : α) :
    (m.insert k a).erase id = (m.erase id).insert k a := by
  apply ext
  intro i
  by_cases hi : i = id
  · subst hi
    simp [find?_erase, find?_insert, h.symm]
  · simp [find?_erase, find?_insert, hi]

theorem mapValues_insert (f : UnitId → α → β) (m : IdMap α) (id : UnitId) (a : α) :
    (m.insert id a).mapValues f = (m.mapValues f).insert id (f id a) := by
  apply ext
  intro k
  rw [find?_mapValues, find?_insert, find?_insert, find?_mapValues]
  split
  · next hk =>
    rw [hk]
    rfl
  · rfl

/-! ### Making a map of a list -/

theorem insertEntry_eq_append {id : UnitId} {a : α} {es : List (UnitId × α)}
    (h : ∀ e ∈ es, e.1 < id) : insertEntry id a es = es ++ [(id, a)] := by
  induction es with
  | nil => rfl
  | cons e rest ih =>
      obtain ⟨he, hrest⟩ := List.forall_mem_cons.1 h
      rw [insertEntry, if_neg (String.lt_asymm he), if_pos he, ih hrest, List.cons_append]

theorem entries_ofList {es : List (UnitId × α)} (h : es.Pairwise (fun x y => x.1 < y.1)) :
    (ofList es).entries = es := by
  induction es using List.reverseRecOn with
  | nil => rfl
  | append_singleton es e ih =>
      obtain ⟨hes, _, hlast⟩ := List.pairwise_append.1 h
      have hstep : (ofList (es ++ [e])).entries = insertEntry e.1 e.2 (ofList es).entries := by
        rw [ofList, List.foldl_concat]
        rfl
      rw [hstep, ih hes]
      exact insertEntry_eq_append fun x hx => hlast x hx e List.mem_cons_self

theorem ofList_entries (m : IdMap α) : ofList m.entries = m :=
  ext_entries (entries_ofList m.ascending)

/-- Values that tell their names make up the map again. -/
theorem foldl_insert_values {m : IdMap α} {key : α → UnitId}
    (h : ∀ id a, m.find? id = some a → key a = id) :
    m.values.foldl (fun m a => m.insert (key a) a) ∅ = m := by
  have names (n : IdMap α) (e : UnitId × α) (he : e ∈ m.entries) :
      n.insert (key e.2) e.2 = n.insert e.1 e.2 := by
    rw [h e.1 e.2 (find?_eq_some_iff.2 he)]
  rw [values, List.foldl_map, List.foldl_ext _ _ _ names]
  exact m.ofList_entries

/-! ### Sizes -/

theorem length_insertEntry_le (id : UnitId) (a : α) (es : List (UnitId × α)) :
    (insertEntry id a es).length ≤ es.length + 1 := by
  induction es with
  | nil => simp [insertEntry]
  | cons e rest ih =>
      unfold insertEntry
      split
      · simp
      · split
        · simpa using ih
        · simp

theorem size_insert_le (m : IdMap α) (id : UnitId) (a : α) :
    (m.insert id a).size ≤ m.size + 1 :=
  length_insertEntry_le id a m.entries

theorem length_insertEntry {id : UnitId} {es : List (UnitId × α)} (h : id ∉ es.map (·.1)) (a : α) :
    (insertEntry id a es).length = es.length + 1 := by
  induction es with
  | nil => rfl
  | cons e rest ih =>
      obtain ⟨hne, hrest⟩ := not_or.1 (mt List.mem_cons.2 h)
      unfold insertEntry
      split
      · rfl
      · next hnlt =>
        split
        · exact congrArg (· + 1) (ih hrest)
        · next hngt => exact absurd (String.le_antisymm hngt hnlt) hne

theorem size_insert {m : IdMap α} {id : UnitId} (absent : m.find? id = none) (a : α) :
    (m.insert id a).size = m.size + 1 :=
  length_insertEntry (find?_eq_none_iff.1 absent) a

theorem size_erase_le (m : IdMap α) (id : UnitId) : (m.erase id).size ≤ m.size :=
  List.length_filter_le ..

theorem size_erase {m : IdMap α} {id : UnitId} {a : α} (held : m.find? id = some a) :
    (m.erase id).size + 1 = m.size := by
  have back : (m.erase id).insert id a = m := by
    apply ext
    intro k
    rw [find?_insert, find?_erase]
    split
    · next hk => rw [hk, held]
    · rfl
  have absent : (m.erase id).find? id = none := by rw [find?_erase, if_pos rfl]
  rw [← size_insert absent a, back]

@[simp] theorem size_mapValues (f : UnitId → α → β) (m : IdMap α) :
    (m.mapValues f).size = m.size := by
  simp [size, mapValues]

@[simp] theorem size_modify (m : IdMap α) (id : UnitId) (f : α → α) :
    (m.modify id f).size = m.size := size_mapValues _ m

@[simp] theorem length_keys (m : IdMap α) : m.keys.length = m.size := by
  simp [keys, size]

end BuildAdmission.IdMap
