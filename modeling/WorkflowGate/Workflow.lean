/-
# Saved workflows

A saved workflow is a JSON mapping with nodes and edges, at the top or under `workflow`.  A mapping
under `workflow` hides whatever stands beside it.

* `ofValue_eq_none_iff`: a value is no workflow exactly when its level has no nodes.
-/
import WorkflowGate.Files
import WorkflowGate.Room

namespace WorkflowGate

/-- The nodes and edges of a saved workflow, not yet looked at. -/
structure Workflow where
  nodes : Value
  edges : Value

namespace Workflow

/-- The level of a document that should hold the nodes. -/
def level (document : Value) : Entries :=
  let es := (document.entries?).getD []
  match Entries.get es "workflow" with
  | .mapping inner => inner
  | _ => es

/-- The workflow in a document. -/
def ofValue (document : Value) : Option Workflow :=
  let es := level document
  match Entries.get? es "nodes" with
  | some nodes => some ⟨nodes, (Entries.get? es "edges").getD (.list [])⟩
  | none => none

/-- A value is no workflow exactly when its level has no nodes. -/
theorem ofValue_eq_none_iff (document : Value) :
    ofValue document = none ↔ Entries.get? (level document) "nodes" = none := by
  simp only [ofValue]
  split <;> simp_all

/-- The workflow in the bytes of a file. -/
def ofBytes [Room] (bytes : List UInt8) : Except Fault Workflow := do
  match ofValue (← FileState.readJson Room.document bytes) with
  | some w => return w
  | none => throw .notAWorkflow

/-- The workflow at a path. -/
def load [Room] (path : Text) (look : Text → FileState) : Except Fault Workflow :=
  if Path.isUsable path then do
    let path := Path.normalize path
    ofBytes (← (look path).contents path)
  else .error .unusablePath

end Workflow

end WorkflowGate
