/-
# Dynamic values

What a node's form may hold, what a settings file may hold and what a back end may answer: null,
truth values, whole numbers of any size, floats, text, lists, tuples and mappings.  A mapping keeps
its entries in order, and its keys need not be text.

The order on numbers is that of their places on the number line, truth values counting as zero and
one (`Value.place?`); nothing else can be compared.

* `height_pos`: every value has a height, the depth to which values stand within it.
-/
import WorkflowGate.OrderedMap
import WorkflowGate.Text.Quoted
import WorkflowGate.Number.Shortest

namespace WorkflowGate

/-- A key of a mapping. -/
inductive Key
  | text (t : Text)
  | int (i : Int)
  | float (x : Binary64)
  | bool (b : Bool)
  | null
deriving DecidableEq, Inhabited

namespace Key

/-- The text of a key that is text. -/
def text? : Key → Option Text
  | text t => some t
  | _ => none

/-- The place of a numeric key; a truth value counts as zero or one. -/
def place? : Key → Option Place
  | int i => some (placeOfInt i)
  | float x => x.place?
  | bool b => some (placeOfInt (if b then 1 else 0))
  | _ => none

/-- Do two keys denote the same entry?  Numeric keys do when they have one place. -/
def same (a b : Key) : Bool :=
  match a.place?, b.place? with
  | some p, some q => p = q
  | none, none => a = b && a ≠ float .nan
  | _, _ => false

end Key

/-- A value of no fixed shape. -/
inductive Value
  | null
  | bool (b : Bool)
  | int (i : Int)
  | float (x : Binary64)
  | text (t : Text)
  | list (items : List Value)
  | tuple (items : List Value)
  | mapping (entries : List (Key × Value))
deriving Inhabited

/-- The entries of a mapping, in order. -/
abbrev Entries := List (Key × Value)

namespace Entries

/-- The value of a text key. -/
def get? (es : Entries) (name : Text) : Option Value := OrderedMap.lookup (.text name) es

/-- The value of a text key, null when absent. -/
def get (es : Entries) (name : Text) : Value := (es.get? name).getD .null

/-- Gives a key a value: in place when an equal key is present, else at the end. -/
def put (es : Entries) (k : Key) (v : Value) : Entries :=
  match es with
  | [] => [(k, v)]
  | (k', v') :: rest => if k'.same k then (k', v) :: rest else (k', v') :: put rest k v

/-- Entries written one after the other. -/
def ofList (es : List (Key × Value)) : Entries := es.foldl (fun m e => put m e.1 e.2) []

/-- The first key that is none of the names. -/
def stranger? (es : Entries) (names : List String) : Option Key :=
  (es.map Prod.fst).find? fun k => !(k.text?.any fun t => (names.map Text.ofString).contains t)

end Entries

namespace Value

/-! ## 1. Kinds of values -/

/-- A mapping from texts, the keys in the given order. -/
def ofFields (fields : List (String × Value)) : Value :=
  .mapping (fields.map fun f => (.text f.1, f.2))

/-- The text, or null. -/
def ofText? : Option Text → Value
  | some t => .text t
  | none => .null

/-- The word for the kind of a value. -/
def kindWord : Value → String
  | null => "NoneType"
  | bool _ => "bool"
  | int _ => "int"
  | float _ => "float"
  | text _ => "str"
  | list _ => "list"
  | tuple _ => "tuple"
  | mapping _ => "dict"

/-- The entries of a mapping. -/
def entries? : Value → Option Entries
  | mapping es => some es
  | _ => none

/-- The text of a value that is text. -/
def text? : Value → Option Text
  | text t => some t
  | _ => none

/-- The members of a list or tuple. -/
def members? : Value → Option (List Value)
  | list items => some items
  | tuple items => some items
  | _ => none

/-- A key seen as a value. -/
def ofKey : Key → Value
  | .text t => text t
  | .int i => int i
  | .float x => float x
  | .bool b => bool b
  | .null => null

/-- What one meets when going through a value: the members of a list or tuple, the keys of a
mapping, the code points of a text. -/
def iterated? : Value → Option (List Value)
  | list items => some items
  | tuple items => some items
  | mapping es => some (es.map fun e => ofKey e.1)
  | text t => some (t.points.map fun p => text ⟨[p]⟩)
  | _ => none

/-- Null, false, zero and whatever is empty are not truthy; all else is, NaN included. -/
def truthy : Value → Bool
  | null => false
  | bool b => b
  | int i => i ≠ 0
  | float x => !x.isZero
  | text t => !t.isEmpty
  | list items => !items.isEmpty
  | tuple items => !items.isEmpty
  | mapping es => !es.isEmpty

/-- The value itself when truthy, else the other one. -/
def orElse (v other : Value) : Value := if v.truthy then v else other

/-- The place of a number or truth value. -/
def place? : Value → Option Place
  | int i => some (placeOfInt i)
  | float x => x.place?
  | bool b => some (placeOfInt (if b then 1 else 0))
  | _ => none

/-- Can the value be compared with a number at all?  NaN can, though it has no place. -/
def isNumeric : Value → Bool
  | int _ => true
  | float _ => true
  | bool _ => true
  | _ => false

/-! ## 2. Text of a value -/

mutual

/-- The value as it is written within a list: text in quotes, lists in brackets, tuples in
parentheses, mappings in braces. -/
def literal : Value → Text
  | null => "None"
  | bool b => if b then "True" else "False"
  | int i => Text.ofInt i
  | float x => x.toShortest
  | text t => t.quoted
  | list items => "[" ++ Text.join ", " (literals items) ++ "]"
  | tuple items =>
    if items.length = 1 then "(" ++ Text.join ", " (literals items) ++ ",)"
    else "(" ++ Text.join ", " (literals items) ++ ")"
  | mapping es => "\x7b" ++ Text.join ", " (entryLiterals es) ++ "\x7d"

/-- Each value as it is written within a list. -/
def literals : List Value → List Text
  | [] => []
  | v :: rest => v.literal :: literals rest

/-- Each entry as it is written within a mapping. -/
def entryLiterals : List (Key × Value) → List Text
  | [] => []
  | (k, v) :: rest =>
    ((match k with
      | .text t => t.quoted
      | .int i => Text.ofInt i
      | .float x => Text.ofString x.toShortest
      | .bool b => Text.ofString (if b then "True" else "False")
      | .null => Text.ofString "None") ++ ": " ++ v.literal) :: entryLiterals rest

end

/-- The value as text: text as it is, all else as within a list. -/
def display : Value → Text
  | text t => t
  | v => v.literal

/-! ## 3. Height -/

mutual

/-- How deep values stand within a value: one where it holds no others. -/
def height : Value → Nat
  | .list items => greatestHeight items + 1
  | .tuple items => greatestHeight items + 1
  | .mapping es => greatestEntryHeight es + 1
  | _ => 1

/-- The greatest height of values. -/
def greatestHeight : List Value → Nat
  | [] => 0
  | v :: rest => max v.height (greatestHeight rest)

/-- The greatest height of the values of entries. -/
def greatestEntryHeight : List (Key × Value) → Nat
  | [] => 0
  | (_, v) :: rest => max v.height (greatestEntryHeight rest)

end

/-- Every value has a height. -/
theorem height_pos (v : Value) : 0 < v.height := by
  cases v <;> simp [height]

end Value

end WorkflowGate
