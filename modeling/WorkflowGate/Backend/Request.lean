/-
# What a back end is asked

A back end knows what a canvas does not show: who owns which credentials, the types of inputs and
outputs, the other workflows that a node calls.  It is sent the nodes and edges of a snapshot and
told which checks to make.

The values of a form travel as plain data (`Value.portable`): tuples as lists, keys as texts, and
null for a float that is no finite number.  Some values cannot be turned into plain data
(`Value.unportable?`), and some plain data cannot be written (`Value.unwritable?`).

* `portable_isFinite`: no float that travels is NaN or infinite;
* `unportable?_eq_none_iff`: a value travels exactly when nothing in it is too deep within others and
  all its keys can be written;
* `request_eq_ok_iff`: there is a request exactly when all values of all forms travel.
-/
import WorkflowGate.Graph.Snapshot
import WorkflowGate.Json.Printer

namespace WorkflowGate

/-! ## 1. Plain data -/

/-- The fault of writing an integer, if it has too many digits. -/
def unwritableInteger? (i : Int) : Option Fault :=
  match writeInteger i with
  | .ok _ => none
  | .error f => some f

namespace Key

/-- The text as which a key travels. -/
def portable : Key → Text
  | .text t => t
  | .int i => Text.ofInt i
  | .float x => if x.isFinite then Text.ofString x.toShortest else "None"
  | .bool b => Text.ofString (if b then "true" else "false")
  | .null => "None"

/-- What keeps a key from travelling as a text: it is an integer with too many digits. -/
def unportable? : Key → Option Fault
  | .int i => unwritableInteger? i
  | _ => none

/-- What keeps a key from being written: it does not travel, or it is a float that is no finite
number. -/
def unwritable? : Key → Option Fault
  | .float x => if x.isFinite then none else some .notFinite
  | k => k.unportable?

end Key

namespace Value

mutual

/-- The value as plain data. -/
def portable : Value → Value
  | .float x => if x.isFinite then .float x else .null
  | .list items => .list (portableItems items)
  | .tuple items => .list (portableItems items)
  | .mapping es => .mapping (Entries.ofList (portableEntries es))
  | v => v

/-- Each value as plain data. -/
def portableItems : List Value → List Value
  | [] => []
  | v :: rest => v.portable :: portableItems rest

/-- Each entry as plain data. -/
def portableEntries : List (Key × Value) → List (Key × Value)
  | [] => []
  | (k, v) :: rest => (.text k.portable, v.portable) :: portableEntries rest

end

/-- The height up to which values travel. -/
def heightLimit : Nat := 255

mutual

/-- What keeps a value from travelling, as far as one meets it first: values deeper within others than
a height, or a key that does not travel. -/
def unportable? : Nat → Value → Option Fault
  | 0, _ => some .tooDeepToSend
  | height + 1, .list items => firstUnportable? height items
  | height + 1, .tuple items => firstUnportable? height items
  | height + 1, .mapping es => entryUnportable? height es
  | _ + 1, _ => none

/-- The first fault of that kind among values. -/
def firstUnportable? : Nat → List Value → Option Fault
  | _, [] => none
  | height, v :: rest => (unportable? height v).or (firstUnportable? height rest)

/-- The first fault of that kind among entries, the key of each before its value. -/
def entryUnportable? : Nat → List (Key × Value) → Option Fault
  | _, [] => none
  | height, (k, v) :: rest =>
    k.unportable?.or ((unportable? height v).or (entryUnportable? height rest))

end

mutual

/-- Can every key within a value travel? -/
def keysTravel : Value → Bool
  | .list items => itemKeysTravel items
  | .tuple items => itemKeysTravel items
  | .mapping es => entryKeysTravel es
  | _ => true

/-- Can every key within values travel? -/
def itemKeysTravel : List Value → Bool
  | [] => true
  | v :: rest => v.keysTravel && itemKeysTravel rest

/-- Can every key of entries, and within their values, travel? -/
def entryKeysTravel : List (Key × Value) → Bool
  | [] => true
  | (k, v) :: rest => k.unportable?.isNone && v.keysTravel && entryKeysTravel rest

end

mutual

/-- **What keeps a value from travelling** is that something in it is too deep, or a key. -/
theorem unportable?_eq_none_iff (height : Nat) (v : Value) :
    unportable? height v = none ↔ v.height ≤ height ∧ v.keysTravel = true := by
  cases height with
  | zero =>
    rw [unportable?]
    exact iff_of_false nofun fun h => absurd h.1 (Nat.not_le_of_lt v.height_pos)
  | succ height =>
    cases v with
    | list items =>
      rw [unportable?, firstUnportable?_eq_none_iff height items, Value.height, keysTravel,
        Nat.add_le_add_iff_right]
    | tuple items =>
      rw [unportable?, firstUnportable?_eq_none_iff height items, Value.height, keysTravel,
        Nat.add_le_add_iff_right]
    | mapping es =>
      rw [unportable?, entryUnportable?_eq_none_iff height es, Value.height, keysTravel,
        Nat.add_le_add_iff_right]
    | null | bool _ | int _ | float _ | text _ => simp [unportable?, Value.height, keysTravel]

theorem firstUnportable?_eq_none_iff (height : Nat) (items : List Value) :
    firstUnportable? height items = none ↔
      greatestHeight items ≤ height ∧ itemKeysTravel items = true := by
  cases items with
  | nil => simp [firstUnportable?, greatestHeight, itemKeysTravel]
  | cons v rest =>
    rw [firstUnportable?, Option.or_eq_none_iff, unportable?_eq_none_iff height v,
      firstUnportable?_eq_none_iff height rest, greatestHeight, itemKeysTravel, Nat.max_le,
      Bool.and_eq_true, and_and_and_comm]

theorem entryUnportable?_eq_none_iff (height : Nat) (es : List (Key × Value)) :
    entryUnportable? height es = none ↔
      greatestEntryHeight es ≤ height ∧ entryKeysTravel es = true := by
  cases es with
  | nil => simp [entryUnportable?, greatestEntryHeight, entryKeysTravel]
  | cons e rest =>
    obtain ⟨k, v⟩ := e
    rw [entryUnportable?, Option.or_eq_none_iff, Option.or_eq_none_iff,
      unportable?_eq_none_iff height v, entryUnportable?_eq_none_iff height rest,
      greatestEntryHeight, entryKeysTravel, Nat.max_le, Bool.and_eq_true, Bool.and_eq_true,
      Option.isNone_iff_eq_none]
    constructor
    · rintro ⟨hk, ⟨hv, hvk⟩, hrest, hrestk⟩
      exact ⟨⟨hv, hrest⟩, ⟨hk, hvk⟩, hrestk⟩
    · rintro ⟨⟨hv, hrest⟩, ⟨hk, hvk⟩, hrestk⟩
      exact ⟨hk, ⟨hv, hvk⟩, hrest, hrestk⟩

end

/-- No float that travels is NaN or infinite. -/
theorem portable_isFinite {v : Value} {x : Binary64} (h : v.portable = .float x) :
    x.isFinite = true := by
  cases v with
  | float y =>
    by_cases hy : y.isFinite
    · simp only [portable, hy, if_true, Value.float.injEq] at h
      exact h ▸ hy
    · simp [portable, hy] at h
  | _ => simp [portable] at h

mutual

/-- The first thing in a value that keeps it from being written, if there is one. -/
def unwritable? : Value → Option Fault
  | .int i => unwritableInteger? i
  | .float x => if x.isFinite then none else some .notFinite
  | .list items => firstUnwritable? items
  | .tuple items => firstUnwritable? items
  | .mapping es => entryUnwritable? es
  | _ => none

/-- The first fault among values. -/
def firstUnwritable? : List Value → Option Fault
  | [] => none
  | v :: rest => v.unwritable?.or (firstUnwritable? rest)

/-- The first fault among entries, the key of each before its value. -/
def entryUnwritable? : List (Key × Value) → Option Fault
  | [] => none
  | (k, v) :: rest => k.unwritable?.or (v.unwritable?.or (entryUnwritable? rest))

end

/-- Checks that a value can be written and sent as UTF-8. -/
def checkSendable (v : Value) : Except Fault Unit :=
  match v.unwritable? with
  | some f => .error f
  | none => if (Json.write .compact v).hasSurrogate then .error .unencodable else .ok ()

end Value

/-! ## 2. The request -/

/-- Which checks a back end is asked to make.  The flags travel as they are given. -/
structure CheckFlags where
  credentials : Value := .bool true
  types : Value := .bool true
  subworkflowCycles : Value := .bool true

namespace CheckFlags

/-- The flags under their names. -/
def fields (c : CheckFlags) : List (String × Value) :=
  [("check_credentials", c.credentials), ("check_types", c.types),
   ("check_subworkflow_cycles", c.subworkflowCycles)]

/-- The names of the flags. -/
def names : List String := ({} : CheckFlags).fields.map Prod.fst

/-- The flags of a caller who gives some of them; the others are on. -/
def ofArguments (given : Entries) : Except Fault CheckFlags :=
  match Entries.stranger? given names with
  | some key => .error (.unknownOption key)
  | none =>
    let flag (name : String) : Value := (Entries.get? given name).getD (.bool true)
    .ok ⟨flag "check_credentials", flag "check_types", flag "check_subworkflow_cycles"⟩

end CheckFlags

/-- A node as plain data. -/
def Node.portable (n : Node) : Value :=
  Value.ofFields
    [("id", .text n.id), ("kind", .text n.kind),
     ("config", .mapping (n.config.map fun e => (.text e.1, e.2.portable))),
     ("label", Value.ofText? n.label), ("parent_id", Value.ofText? n.parentId)]

/-- An edge as plain data. -/
def Edge.portable (e : Edge) : Value :=
  Value.ofFields
    [("id", .text e.id), ("source", .text e.source), ("target", .text e.target),
     ("source_handle", Value.ofText? e.sourceHandle),
     ("target_handle", Value.ofText? e.targetHandle)]

/-- What keeps the form of a node from travelling, as far as one meets it first. -/
def Node.unportable? (n : Node) : Option Fault :=
  n.config.findSome? fun e => e.2.unportable? Value.heightLimit

/-- What a back end is asked about a snapshot. -/
def Snapshot.request (s : Snapshot) (flags : CheckFlags) : Except Fault Value :=
  match s.nodeList.findSome? Node.unportable? with
  | some f => .error f
  | none =>
    .ok (Value.ofFields
      ([("nodes", .list (s.nodeList.map Node.portable)),
        ("edges", .list (s.edges.map Edge.portable))] ++ flags.fields))

/-- **A value of a form travels**: nothing in it is too deep, and every key in it can be written. -/
def Value.Travels (v : Value) : Prop := v.height ≤ Value.heightLimit ∧ v.keysTravel = true

instance (v : Value) : Decidable v.Travels :=
  inferInstanceAs (Decidable (v.height ≤ Value.heightLimit ∧ v.keysTravel = true))

theorem Node.unportable?_eq_none_iff (n : Node) :
    n.unportable? = none ↔ ∀ e ∈ n.config, e.2.Travels := by
  simp only [Node.unportable?, List.findSome?_eq_none_iff, Value.unportable?_eq_none_iff,
    Value.Travels]

/-- There is a request exactly when all values of all forms travel. -/
theorem Snapshot.request_eq_ok_iff (s : Snapshot) (flags : CheckFlags) :
    (∃ v, s.request flags = .ok v) ↔ ∀ n ∈ s.nodeList, ∀ e ∈ n.config, e.2.Travels := by
  simp only [← Node.unportable?_eq_none_iff, ← List.findSome?_eq_none_iff, Snapshot.request]
  cases s.nodeList.findSome? Node.unportable? <;> simp

end WorkflowGate
