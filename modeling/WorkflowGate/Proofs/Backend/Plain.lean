/-
# Plain data

What travels to a back end is plain data: no tuples, no float but finite ones, and mappings whose keys
are texts, each there once.  A document of the editor is plain data when it gets here, and then it
travels as it is.

* `put_eq_insertEntry`: among texts an entry is written as in any map;
* `ofList_eq_self`: entries of different texts are already written one after the other;
* `isPlain_portable`: all that travels is plain data;
* `portable_eq_self_iff`: **a value travels as it is exactly when it is plain data**.
-/
import Mathlib.Data.List.Nodup
import WorkflowGate.Backend.Request

namespace WorkflowGate

namespace Entries

/-! ## 1. Entries of texts -/

/-- All keys are texts. -/
def AllTexts (es : Entries) : Prop := ∀ k ∈ es.map Prod.fst, k.text?.isSome = true

/-- All keys are texts, and none is there twice. -/
structure TextKeys (es : Entries) : Prop where
  texts : es.AllTexts
  nodup : (es.map Prod.fst).Nodup

instance (es : Entries) : Decidable es.AllTexts := inferInstanceAs (Decidable (∀ k ∈ _, _))

instance (es : Entries) : Decidable es.TextKeys :=
  decidable_of_iff (es.AllTexts ∧ (es.map Prod.fst).Nodup) ⟨fun h => ⟨h.1, h.2⟩, fun h => ⟨h.1, h.2⟩⟩

/-- Texts are one key exactly when they are equal. -/
theorem same_of_texts {k k' : Key} (hk : k.text?.isSome = true) (hk' : k'.text?.isSome = true) :
    k.same k' = decide (k = k') := by
  cases k <;> cases hk
  cases k' <;> cases hk'
  simp [Key.same, Key.place?]

/-- Among texts an entry is written as in any map. -/
theorem put_eq_insertEntry {es : Entries} {k : Key} (v : Value) (htexts : es.AllTexts)
    (hk : k.text?.isSome = true) : es.put k v = OrderedMap.insertEntry k v es := by
  induction es with
  | nil => rfl
  | cons e rest ih =>
    have hfirst : e.1.text?.isSome = true := htexts e.1 List.mem_cons_self
    have hrest : AllTexts rest := fun j hj => htexts j (List.mem_cons_of_mem _ hj)
    rw [put, OrderedMap.insertEntry, same_of_texts hfirst hk, ih hrest]
    by_cases heq : e.1 = k <;> simp [heq]

/-- An entry more under a text leaves different texts. -/
theorem TextKeys.put {es : Entries} (h : es.TextKeys) {k : Key} (v : Value)
    (hk : k.text?.isSome = true) : TextKeys (es.put k v) := by
  have hkeys := OrderedMap.keys_insertEntry k v es
  rw [← put_eq_insertEntry v h.texts hk] at hkeys
  by_cases hmem : k ∈ es.map Prod.fst
  · rw [if_pos hmem] at hkeys
    exact ⟨fun j hj => h.texts j (hkeys ▸ hj), hkeys ▸ h.nodup⟩
  · rw [if_neg hmem, ← List.concat_eq_append] at hkeys
    refine ⟨fun j hj => ?_, hkeys ▸ h.nodup.concat hmem⟩
    rw [hkeys, List.concat_eq_append, List.mem_append, List.mem_singleton] at hj
    rcases hj with hj | rfl
    · exact h.texts j hj
    · exact hk

/-- **Entries of different texts are already written one after the other.** -/
theorem ofList_eq_self {es : Entries} (h : es.TextKeys) : ofList es = es := by
  have hloop : ∀ rest before : Entries, (before ++ rest).TextKeys →
      rest.foldl (fun m e => put m e.1 e.2) before = before ++ rest := by
    intro rest
    induction rest with
    | nil => exact fun before _ => (List.append_nil _).symm
    | cons e rest ih =>
      intro before hkeys
      have hsplit : before ++ e :: rest = (before ++ [e]) ++ rest := by simp
      have hput : before.put e.1 e.2 = before ++ [e] := by
        have hnodup := hkeys.nodup
        rw [List.map_append, List.map_cons] at hnodup
        have hnew : e.1 ∉ before.map Prod.fst := fun hmem =>
          (List.nodup_append.mp hnodup).2.2 e.1 hmem e.1 List.mem_cons_self rfl
        have hbefore : before.AllTexts := fun j hj =>
          hkeys.texts j (List.map_append ▸ List.mem_append_left _ hj)
        rw [put_eq_insertEntry e.2 hbefore (hkeys.texts e.1 (by simp)),
          OrderedMap.insertEntry_of_not_mem e.2 hnew]
      rw [List.foldl_cons, hput, hsplit]
      exact ih (before ++ [e]) (hsplit ▸ hkeys)
  exact hloop es [] h

end Entries

namespace Value

/-! ## 2. Plain data -/

mutual

/-- Is the value plain data? -/
def isPlain : Value → Bool
  | .float x => x.isFinite
  | .list items => allPlain items
  | .tuple _ => false
  | .mapping es => decide (Entries.TextKeys es) && entriesPlain es
  | _ => true

/-- Are all values plain data? -/
def allPlain : List Value → Bool
  | [] => true
  | v :: rest => v.isPlain && allPlain rest

/-- Are the values of all entries plain data? -/
def entriesPlain : List (Key × Value) → Bool
  | [] => true
  | (_, v) :: rest => v.isPlain && entriesPlain rest

end

theorem entriesPlain_iff (es : Entries) :
    entriesPlain es = true ↔ ∀ e ∈ es, e.2.isPlain = true := by
  induction es with
  | nil => simp [entriesPlain]
  | cons e rest ih => simp [entriesPlain, ih]

/-- A mapping is plain data when its keys are different texts and its values are plain data. -/
theorem isPlain_mapping_iff (es : Entries) :
    (mapping es).isPlain = true ↔ es.TextKeys ∧ ∀ e ∈ es, e.2.isPlain = true := by
  rw [isPlain, Bool.and_eq_true, decide_eq_true_eq, entriesPlain_iff]

mutual

/-- **Plain data travels as it is.** -/
theorem portable_of_isPlain (v : Value) (h : v.isPlain = true) : v.portable = v := by
  cases v with
  | float x =>
    rw [isPlain] at h
    rw [portable, if_pos h]
  | list items =>
    rw [isPlain] at h
    rw [portable, portableItems_of_allPlain items h]
  | tuple items => cases h
  | mapping es =>
    rw [isPlain, Bool.and_eq_true, decide_eq_true_eq] at h
    rw [portable, portableEntries_of_entriesPlain es h.1.texts h.2, Entries.ofList_eq_self h.1]
  | null | bool _ | int _ | text _ => rw [portable] <;> intros <;> contradiction

theorem portableItems_of_allPlain (items : List Value) (h : allPlain items = true) :
    portableItems items = items := by
  cases items with
  | nil => rfl
  | cons v rest =>
    rw [allPlain, Bool.and_eq_true] at h
    rw [portableItems, portable_of_isPlain v h.1, portableItems_of_allPlain rest h.2]

theorem portableEntries_of_entriesPlain (es : List (Key × Value)) (htexts : Entries.AllTexts es)
    (h : entriesPlain es = true) : portableEntries es = es := by
  cases es with
  | nil => rfl
  | cons e rest =>
    obtain ⟨key, v⟩ := e
    rw [entriesPlain, Bool.and_eq_true] at h
    have hkey : Key.text key.portable = key := by
      have hfirst := htexts key List.mem_cons_self
      cases key <;> cases hfirst
      rfl
    rw [portableEntries, hkey, portable_of_isPlain v h.1, portableEntries_of_entriesPlain rest
      (fun k hk => htexts k (List.mem_cons_of_mem _ hk)) h.2]

end

/-- Plain data that is written under texts is plain data. -/
theorem isPlain_ofList {es : Entries} (htexts : es.AllTexts) (h : ∀ e ∈ es, e.2.isPlain = true) :
    (mapping (Entries.ofList es)).isPlain = true := by
  have hloop : ∀ (rest before : Entries), rest.AllTexts → (∀ e ∈ rest, e.2.isPlain = true) →
      (mapping before).isPlain = true →
      (mapping (rest.foldl (fun m e => Entries.put m e.1 e.2) before)).isPlain = true := by
    intro rest
    induction rest with
    | nil => exact fun before _ _ h => h
    | cons e rest ih =>
      intro before htexts hplain hbefore
      obtain ⟨hkeys, hvalues⟩ := (isPlain_mapping_iff before).mp hbefore
      have hfirst : e.1.text?.isSome = true := htexts e.1 List.mem_cons_self
      refine ih (before.put e.1 e.2) (fun k hk => htexts k (List.mem_cons_of_mem _ hk))
        (fun d hd => hplain d (List.mem_cons_of_mem _ hd)) ?_
      refine (isPlain_mapping_iff _).mpr ⟨hkeys.put e.2 hfirst, fun d hd => ?_⟩
      rw [Entries.put_eq_insertEntry e.2 hkeys.texts hfirst] at hd
      rcases OrderedMap.mem_insertEntry hd with rfl | hd
      · exact hplain e List.mem_cons_self
      · exact hvalues d hd
  exact hloop es [] htexts h rfl

mutual

/-- **All that travels is plain data.** -/
theorem isPlain_portable (v : Value) : v.portable.isPlain = true := by
  cases v with
  | float x =>
    rw [portable]
    split
    next h => exact h
    next h => rfl
  | list items => exact allPlain_portableItems items
  | tuple items => exact allPlain_portableItems items
  | mapping es =>
    have hentries := allTexts_portableEntries es
    exact isPlain_ofList hentries.1 hentries.2
  | null | bool _ | int _ | text _ => simp [portable, isPlain]

theorem allPlain_portableItems (items : List Value) : allPlain (portableItems items) = true := by
  cases items with
  | nil => rfl
  | cons v rest =>
    rw [portableItems, allPlain, isPlain_portable v, allPlain_portableItems rest]
    rfl

theorem allTexts_portableEntries (es : List (Key × Value)) :
    Entries.AllTexts (portableEntries es) ∧ ∀ e ∈ portableEntries es, e.2.isPlain = true := by
  cases es with
  | nil => exact ⟨fun k hk => absurd hk List.not_mem_nil, fun e he => absurd he List.not_mem_nil⟩
  | cons e rest =>
    obtain ⟨htexts, hplain⟩ := allTexts_portableEntries rest
    rw [portableEntries]
    exact ⟨List.forall_mem_cons.mpr ⟨rfl, htexts⟩,
      List.forall_mem_cons.mpr ⟨isPlain_portable e.2, hplain⟩⟩

end

/-- **A value travels as it is exactly when it is plain data.** -/
theorem portable_eq_self_iff (v : Value) : v.portable = v ↔ v.isPlain = true :=
  ⟨fun h => h ▸ isPlain_portable v, portable_of_isPlain v⟩

end Value

end WorkflowGate
