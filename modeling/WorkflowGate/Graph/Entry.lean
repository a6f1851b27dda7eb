/-
# Entries of a canvas

The editor hands over whatever lies on its canvas: mappings in one of several spellings, ready-made
nodes and edges, or something else altogether.  Each entry has a *reading*: the element that it
describes, or the reason why it describes none.

A node's kind, values, label and group are taken from the editor's `data` payload first and from the
entry itself otherwise.  An id is a text that is not empty or an integer, which stands for its
digits.  An edge without an id is named after its ends and handles, so edges between different
handles of the same two nodes get different names.

A form may not hold values deeper within others than there is room to copy (`Room.form`).

* `Entry.readNode_built`, `Entry.readEdge_built`: a ready-made element is read as it is;
* `eq_of_takeConfig`: what is taken over is the form as it is;
* `endName_of_unnamed`: an end without a handle is named by its node alone.
-/
import WorkflowGate.Fault
import WorkflowGate.Graph.Element
import WorkflowGate.Room

namespace WorkflowGate

/-- An entry of a canvas: a value of any shape, or a ready-made element. -/
inductive Entry (α : Type)
  | raw (v : Value)
  | built (element : α)

/-- What is handed over for the nodes or for the edges: entries, or a value that may be no list. -/
inductive Batch (α : Type)
  | entries (es : List (Entry α))
  | value (v : Value)

namespace Batch

/-- A batch from a value: the members of a list or tuple are its entries. -/
def ofValue {α : Type} (v : Value) : Batch α :=
  match v.members? with
  | some items => entries (items.map .raw)
  | none => value v

/-- Is it a list at all? -/
def isList {α : Type} : Batch α → Bool
  | entries _ => true
  | value v => v.members?.isSome

/-- What one meets when going through the batch. -/
def toEntries {α : Type} : Batch α → Except Fault (List (Entry α))
  | entries es => .ok es
  | value v =>
    match v.iterated? with
    | some items => .ok (items.map .raw)
    | none => .error (.notIterable v.kindWord)

end Batch

/-! ## 1. Ids -/

/-- The most digits that an integer is written with. -/
def writtenDigitLimit : Nat := Numeral.digitLimit

/-- An integer in decimal digits, unless there are too many of them. -/
def writeInteger (i : Int) : Except Fault Text :=
  if (toString i.natAbs).length ≤ writtenDigitLimit then .ok (Text.ofInt i)
  else .error .integerTooLong

/-- The id that a value spells: a text that is not empty, or an integer. -/
def idOf : Value → Except Fault (Option Text)
  | .text t => .ok (if t.isEmpty then none else some t)
  | .int i => some <$> writeInteger i
  | _ => .ok none

/-- The text of a value that is text, else nothing. -/
def labelOf (v : Value) : Option Text := v.text?

/-! ## 2. Nodes -/

/-- What an entry says about a node. -/
inductive NodeReading
  | unreadable
  | badConfig (id : Text) (badKeys : Nat)
  | node (n : Node)

/-- The editor's payload of an entry; empty when there is none. -/
def dataOf (es : Entries) : Entries := ((es.get "data").entries?).getD []

/-- The first of the values that is truthy, else the last one. -/
def firstTruthy : List Value → Value
  | [] => .null
  | [v] => v
  | v :: rest => v.orElse (firstTruthy rest)

/-- The values of the form; empty when they are no mapping. -/
def configOf (es data : Entries) : Entries :=
  (((data.get? "config").getD (es.get "config")).entries?).getD []

/-- The values of a form as they are taken over. -/
def takeConfig [Room] (config : Entries) : Except Fault Entries :=
  if config.all fun e => e.2.height ≤ Room.form then .ok config else .error .tooDeepToTake

/-- What is taken over is the form as it is. -/
theorem eq_of_takeConfig {config taken : Entries} (h : takeConfig config = .ok taken) :
    taken = config := by
  unfold takeConfig at h
  split at h
  · exact (Except.ok.inj h).symm
  · cases h

/-- Reads a node from the entries of a mapping. -/
def nodeOfEntries [Room] (es : Entries) : Except Fault NodeReading := do
  let data := dataOf es
  let kind := firstTruthy [data.get "nodeType", es.get "kind", es.get "node_type"]
  let parent :=
    firstTruthy [es.get "parent_id", es.get "parentId", es.get "parentNode", data.get "parentNode"]
  let label := firstTruthy [data.get "label", es.get "label"]
  let id ← idOf (es.get "id")
  let config ← takeConfig (configOf es data)
  let parentId ← idOf parent
  match id with
  | none => return .unreadable
  | some id =>
    match readTextMapping (.mapping config) with
    | .bad errors => return .badConfig id errors.length
    | .good config =>
      return .node ⟨id, (kind.text?).getD Text.empty, config, labelOf label, parentId⟩

/-- The node that an entry describes. -/
def Entry.readNode [Room] : Entry Node → Except Fault NodeReading
  | built n => .ok (.node n)
  | raw (.mapping es) => nodeOfEntries es
  | raw _ => .ok .unreadable

/-- A ready-made node is read as it is. -/
@[simp] theorem Entry.readNode_built (n : Node) : (built n).readNode = .ok (.node n) := rfl

/-! ## 3. Edges -/

/-- The name of one end of an edge: its node, and its handle if it is named. -/
def endName (node : Text) (handle : Option Text) : Text :=
  match Edge.namedHandle handle with
  | some h => node ++ ":" ++ h
  | none => node

/-- An end without a handle is named by its node alone. -/
@[simp] theorem endName_of_unnamed (node : Text) : endName node none = node := rfl

/-- The id of an edge that brings none. -/
def synthesizedId (source target : Text) (sourceHandle targetHandle : Option Text) : Text :=
  endName source sourceHandle ++ "->" ++ endName target targetHandle

/-- The handle under the first of the two names that is present. -/
def handleOf (es : Entries) (name other : Text) : Except Fault (Option Text) :=
  idOf ((es.get? name).getD (es.get other))

/-- Reads an edge from the entries of a mapping; it must have both ends. -/
def edgeOfEntries (es : Entries) : Except Fault (Option Edge) := do
  let source ← idOf (es.get "source")
  let target ← idOf (es.get "target")
  let sourceHandle ← handleOf es "source_handle" "sourceHandle"
  let targetHandle ← handleOf es "target_handle" "targetHandle"
  let id ← idOf (es.get "id")
  match source, target with
  | some source, some target =>
    let id := id.getD (synthesizedId source target sourceHandle targetHandle)
    return some ⟨id, source, target, sourceHandle, targetHandle⟩
  | _, _ => return none

/-- The edge that an entry describes. -/
def Entry.readEdge : Entry Edge → Except Fault (Option Edge)
  | built e => .ok (some e)
  | raw (.mapping es) => edgeOfEntries es
  | raw _ => .ok none

/-- A ready-made edge is read as it is. -/
@[simp] theorem Entry.readEdge_built (e : Edge) : (built e).readEdge = .ok (some e) := rfl

end WorkflowGate
