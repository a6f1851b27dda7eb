/-
# Nodes and edges

The two kinds of elements on a canvas once their shape is known: an operation node with the values
of its form, and a directed connection between two nodes, possibly between named handles of them.

An element may also be handed over ready made; `Node.read` and `Edge.read` check such a one field by
field, and take no other names than those of the fields.
-/
import WorkflowGate.Shape

namespace WorkflowGate

/-- An operation node. -/
structure Node where
  id : Text
  kind : Text := Text.empty
  config : List (Text × Value) := []
  label : Option Text := none
  parentId : Option Text := none

namespace Node

/-- What people call the node: its label, or its id when it has none. -/
def displayName (n : Node) : Text :=
  match n.label with
  | some label => if label.isEmpty then n.id else label
  | none => n.id

/-- The value of a form field; null when it is not set. -/
def get (n : Node) (key : Text) : Value := (OrderedMap.lookup key n.config).getD .null

/-- Reads a node from the entries of a mapping. -/
def ofEntries (es : Entries) : Shaped Node :=
  Node.mk <$> es.required ["id"] readText
    <*> es.optional ["kind"] Text.empty readText
    <*> es.optional ["config"] [] readTextMapping
    <*> es.optional ["label"] none (readOptional readText)
    <*> es.optional ["parent_id"] none (readOptional readText)

/-- The name of the model in messages. -/
def modelName : String := "GraphNode"

/-- Reads a ready-made node. -/
def read (v : Value) : Shaped Node := readModel ofEntries v

end Node

/-- A directed connection between two nodes. -/
structure Edge where
  id : Text
  source : Text
  target : Text
  sourceHandle : Option Text := none
  targetHandle : Option Text := none
deriving DecidableEq

namespace Edge

/-- The two ends, as one text. -/
def key (e : Edge) : Text := e.source ++ "->" ++ e.target

/-- A handle that is named: an empty name counts as none. -/
def namedHandle (handle : Option Text) : Option Text :=
  handle.filter fun t => !t.isEmpty

/-- Reads an edge from the entries of a mapping. -/
def ofEntries (es : Entries) : Shaped Edge :=
  Edge.mk <$> es.required ["id"] readText
    <*> es.required ["source"] readText
    <*> es.required ["target"] readText
    <*> es.optional ["source_handle", "sourceHandle"] none (readOptional readText)
    <*> es.optional ["target_handle", "targetHandle"] none (readOptional readText)

/-- The name of the model in messages. -/
def modelName : String := "GraphEdge"

/-- Reads a ready-made edge. -/
def read (v : Value) : Shaped Edge := readModel ofEntries v

end Edge

end WorkflowGate
