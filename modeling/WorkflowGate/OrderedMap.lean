/-
# Maps that remember the order of insertion

A report lists what it found in the order in which the editor named it, so the maps of this library
keep their entries in the order in which the keys came first, one entry for each key.  Writing to a
key that is present changes its value and leaves it where it is.

* `find?_insert_self`, `find?_insert_of_ne`, `find?_modify`: reading after writing;
* `keys_insert`, `values_insert_of_not_mem`: a new key goes to the end, a present one moves nothing;
* `eq_of_find?_eq`: the keys and what is read under them are all there is to a map;
* `keys_mapValues`, `keys_modify`: changing values keeps the keys.
-/

namespace WorkflowGate

universe u v w

namespace OrderedMap

variable {κ : Type u} {α : Type v} [DecidableEq κ]

/-! ## 1. Entries -/

/-- The value of a key among entries: that of the first entry with the key. -/
def lookup (k : κ) : List (κ × α) → Option α
  | [] => none
  | (k', v) :: rest => if k' = k then some v else lookup k rest

/-- Replaces the value of the first entry with the key, or adds an entry at the end. -/
def insertEntry (k : κ) (v : α) : List (κ × α) → List (κ × α)
  | [] => [(k, v)]
  | (k', v') :: rest => if k' = k then (k', v) :: rest else (k', v') :: insertEntry k v rest

/-- Writing adds a key at the end, or none if it is there. -/
theorem keys_insertEntry (k : κ) (v : α) (es : List (κ × α)) :
    (insertEntry k v es).map Prod.fst =
      if k ∈ es.map Prod.fst then es.map Prod.fst else es.map Prod.fst ++ [k] := by
  induction es with
  | nil => simp [insertEntry]
  | cons e rest ih =>
    obtain ⟨k', v'⟩ := e
    by_cases h : k' = k
    · simp [insertEntry, h]
    · have h' : k ≠ k' := fun heq => h heq.symm
      simp only [insertEntry, h, if_false, List.map_cons, List.mem_cons, h', false_or, ih]
      split <;> simp

/-- Writing keeps the keys apart. -/
theorem nodup_insertEntry {k : κ} {v : α} {es : List (κ × α)} (h : (es.map Prod.fst).Nodup) :
    ((insertEntry k v es).map Prod.fst).Nodup := by
  rw [keys_insertEntry]
  split
  · exact h
  next hk =>
    rw [List.nodup_append]
    refine ⟨h, List.nodup_cons.mpr ⟨List.not_mem_nil, List.nodup_nil⟩, fun a ha b hb heq => hk ?_⟩
    rwa [← List.mem_singleton.mp hb, ← heq]

end OrderedMap

/-- A finite map whose entries stand in order of insertion, no two of them under one key. -/
@[ext]
structure OrderedMap (κ : Type u) (α : Type v) where
  entries : List (κ × α)
  distinct : (entries.map Prod.fst).Nodup

namespace OrderedMap

variable {κ : Type u} {α : Type v} [DecidableEq κ]

/-! ## 2. Maps -/

/-- The map without entries. -/
def empty : OrderedMap κ α := ⟨[], List.nodup_nil⟩

/-- The keys in order of insertion. -/
def keys (m : OrderedMap κ α) : List κ := m.entries.map Prod.fst

/-- The values in order of insertion of their keys. -/
def values (m : OrderedMap κ α) : List α := m.entries.map Prod.snd

/-- How many keys. -/
def size (m : OrderedMap κ α) : Nat := m.entries.length

/-- The value of a key. -/
def find? (m : OrderedMap κ α) (k : κ) : Option α := lookup k m.entries

/-- Is the key present? -/
def contains (m : OrderedMap κ α) (k : κ) : Bool := (m.find? k).isSome

/-- Gives a key a value. -/
def insert (m : OrderedMap κ α) (k : κ) (v : α) : OrderedMap κ α :=
  ⟨insertEntry k v m.entries, nodup_insertEntry m.distinct⟩

/-- The map with each of its values changed, in view of its key. -/
def mapValues {β : Type w} (f : κ → α → β) (m : OrderedMap κ α) : OrderedMap κ β where
  entries := m.entries.map fun e => (e.1, f e.1 e.2)
  distinct := by
    rw [List.map_map]
    exact m.distinct

/-- Changes the value of a key that is present. -/
def modify (m : OrderedMap κ α) (k : κ) (f : α → α) : OrderedMap κ α :=
  m.mapValues fun k' v => if k' = k then f v else v

/-! ## 3. Reading after writing -/

@[simp] theorem find?_empty (k : κ) : (empty : OrderedMap κ α).find? k = none := rfl

theorem lookup_insertEntry (k j : κ) (v : α) (es : List (κ × α)) :
    lookup j (insertEntry k v es) = if k = j then some v else lookup j es := by
  induction es with
  | nil => simp [insertEntry, lookup]
  | cons e rest ih =>
    obtain ⟨k', v'⟩ := e
    by_cases h : k' = k
    · subst h
      by_cases hj : k' = j <;> simp [insertEntry, lookup, hj]
    · by_cases hj : k' = j
      · subst hj
        have hk : k ≠ k' := fun heq => h heq.symm
        simp [insertEntry, lookup, h, hk]
      · simp [insertEntry, lookup, h, hj, ih]

@[simp] theorem find?_insert_self (m : OrderedMap κ α) (k : κ) (v : α) :
    (m.insert k v).find? k = some v := by
  simp [find?, insert, lookup_insertEntry]

theorem find?_insert_of_ne (m : OrderedMap κ α) {k j : κ} (v : α) (h : k ≠ j) :
    (m.insert k v).find? j = m.find? j := by
  simp [find?, insert, lookup_insertEntry, h]

/-- A key has a value exactly when it is among the keys. -/
theorem lookup_isSome_iff (k : κ) (es : List (κ × α)) :
    (lookup k es).isSome = true ↔ k ∈ es.map Prod.fst := by
  induction es with
  | nil => simp [lookup]
  | cons e rest ih =>
    obtain ⟨k', v'⟩ := e
    by_cases h : k' = k
    · simp [lookup, h]
    · have h' : k ≠ k' := fun heq => h heq.symm
      simp [lookup, h, h', ih]

@[simp] theorem contains_iff (m : OrderedMap κ α) (k : κ) : m.contains k = true ↔ k ∈ m.keys :=
  lookup_isSome_iff k m.entries

/-- What has a value is a key. -/
theorem mem_keys_of_find? {m : OrderedMap κ α} {k : κ} {v : α} (h : m.find? k = some v) :
    k ∈ m.keys := by
  rw [← contains_iff, contains, h]
  rfl

/-- A key is present after writing if it was written or was present. -/
theorem contains_insert (m : OrderedMap κ α) (k j : κ) (v : α) :
    (m.insert k v).contains j = true ↔ k = j ∨ m.contains j = true := by
  by_cases h : k = j
  · subst h
    simp [contains]
  · simp [contains, find?_insert_of_ne m v h, h]

/-- Reading entries whose values have been changed. -/
theorem lookup_mapValues {β : Type w} (k : κ) (f : κ → α → β) (es : List (κ × α)) :
    lookup k (es.map fun e => (e.1, f e.1 e.2)) = (lookup k es).map (f k) := by
  induction es with
  | nil => rfl
  | cons e rest ih =>
    obtain ⟨k', v'⟩ := e
    by_cases hk : k' = k
    · subst hk
      simp [lookup]
    · simp [lookup, hk, ih]

/-- Reading a map whose values have been changed. -/
@[simp] theorem find?_mapValues {β : Type w} (m : OrderedMap κ α) (f : κ → α → β) (k : κ) :
    (m.mapValues f).find? k = (m.find? k).map (f k) :=
  lookup_mapValues k f m.entries

@[simp] theorem contains_mapValues {β : Type w} (m : OrderedMap κ α) (f : κ → α → β) (k : κ) :
    (m.mapValues f).contains k = m.contains k := by
  simp [contains]

/-- Reading a key whose value may have been changed in place. -/
theorem find?_modify (m : OrderedMap κ α) (k j : κ) (f : α → α) :
    (m.modify k f).find? j = if k = j then (m.find? j).map f else m.find? j := by
  rw [modify, find?_mapValues]
  by_cases hj : j = k
  · subst hj
    simp
  · have hk : k ≠ j := fun heq => hj heq.symm
    simp [hj, hk]

/-- A value that is read stands among the entries. -/
theorem mem_of_lookup {k : κ} {v : α} {es : List (κ × α)} (h : lookup k es = some v) :
    (k, v) ∈ es := by
  induction es with
  | nil => cases h
  | cons e rest ih =>
    obtain ⟨k', v'⟩ := e
    by_cases hk : k' = k
    · subst hk
      simp only [lookup, if_true, Option.some.injEq] at h
      subst h
      exact List.mem_cons_self
    · simp only [lookup, hk, if_false] at h
      exact List.mem_cons_of_mem _ (ih h)

/-! ## 4. What writing does to the keys -/

/-- **A new key goes to the end; a present one moves nothing.** -/
theorem keys_insert (m : OrderedMap κ α) (k : κ) (v : α) :
    (m.insert k v).keys = if k ∈ m.keys then m.keys else m.keys ++ [k] :=
  keys_insertEntry k v m.entries

/-- The entry of a new key goes to the end. -/
theorem insertEntry_of_not_mem {k : κ} {es : List (κ × α)} (v : α) (h : k ∉ es.map Prod.fst) :
    insertEntry k v es = es ++ [(k, v)] := by
  induction es with
  | nil => rfl
  | cons e rest ih =>
    obtain ⟨k', v'⟩ := e
    rw [List.map_cons, List.mem_cons, not_or] at h
    rw [insertEntry, if_neg fun heq => h.1 heq.symm, ih h.2, List.cons_append]

/-- The value of a new key goes to the end. -/
theorem values_insert_of_not_mem {m : OrderedMap κ α} {k : κ} (v : α) (h : k ∉ m.keys) :
    (m.insert k v).values = m.values ++ [v] := by
  simp [values, insert, insertEntry_of_not_mem v h]

/-- Writing adds no entry but the written one. -/
theorem mem_insertEntry {k : κ} {v : α} {es : List (κ × α)} {e : κ × α}
    (h : e ∈ insertEntry k v es) : e = (k, v) ∨ e ∈ es := by
  induction es with
  | nil => exact .inl (List.mem_singleton.mp h)
  | cons e' rest ih =>
    obtain ⟨k', v'⟩ := e'
    by_cases hk : k' = k
    · subst hk
      simp only [insertEntry, if_true, List.mem_cons] at h ⊢
      exact h.imp_right .inr
    · simp only [insertEntry, hk, if_false, List.mem_cons] at h ⊢
      rcases h with h | h
      · exact .inr (.inl h)
      · exact (ih h).imp_right .inr

/-- **The keys and what is read under them are all there is to a map.** -/
theorem eq_of_find?_eq {m m' : OrderedMap κ α} (hkeys : m.keys = m'.keys)
    (h : ∀ k ∈ m.keys, m.find? k = m'.find? k) : m = m' := by
  obtain ⟨es, hnodup⟩ := m
  obtain ⟨es', hnodup'⟩ := m'
  refine OrderedMap.ext ?_
  simp only [keys, find?] at hnodup hkeys h ⊢
  clear hnodup'
  induction es generalizing es' with
  | nil => exact (List.map_eq_nil_iff.mp hkeys.symm).symm
  | cons e rest ih =>
    obtain ⟨k, v⟩ := e
    cases es' with
    | nil => cases hkeys
    | cons e' rest' =>
      obtain ⟨k', v'⟩ := e'
      rw [List.map_cons, List.map_cons, List.cons.injEq] at hkeys
      obtain ⟨rfl, hkeys⟩ := hkeys
      rw [List.map_cons, List.nodup_cons] at hnodup
      have hfirst : v = v' := by simpa [lookup] using h k List.mem_cons_self
      have hrest : ∀ j ∈ rest.map Prod.fst, lookup j rest = lookup j rest' := by
        intro j hj
        have hne : k ≠ j := fun heq => hnodup.1 (heq ▸ hj)
        simpa [lookup, hne] using h j (List.mem_cons_of_mem _ hj)
      rw [hfirst, ih hnodup.2 rest' hkeys hrest]

omit [DecidableEq κ] in
/-- No key stands twice. -/
theorem nodup_keys (m : OrderedMap κ α) : m.keys.Nodup := m.distinct

omit [DecidableEq κ] in
/-- Changing the values keeps the keys. -/
@[simp] theorem keys_mapValues {β : Type w} (m : OrderedMap κ α) (f : κ → α → β) :
    (m.mapValues f).keys = m.keys := by
  rw [keys, mapValues, List.map_map]
  rfl

omit [DecidableEq κ] in
@[simp] theorem size_mapValues {β : Type w} (m : OrderedMap κ α) (f : κ → α → β) :
    (m.mapValues f).size = m.size := by
  simp [size, mapValues]

/-- Changing a value in place keeps the keys. -/
@[simp] theorem keys_modify (m : OrderedMap κ α) (k : κ) (f : α → α) :
    (m.modify k f).keys = m.keys :=
  keys_mapValues m _

end OrderedMap

end WorkflowGate
