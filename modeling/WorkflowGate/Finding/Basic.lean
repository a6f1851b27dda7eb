/-
# Findings

A finding is one reported issue: how grave it is, what it is about, a message for people, and where
it is, as a node and possibly one of its fields.

Findings travel in a wire shape `{type, code, message, nodeId?, field?}`; reading accepts that shape
and the one with underscores.  An absent locator is left out of the wire shape, an empty one is
kept.

* `read_wire`: what is written reads back.
-/
import WorkflowGate.Shape
import WorkflowGate.Finding.Code

namespace WorkflowGate

/-- One reported issue. -/
structure Finding where
  severity : Severity
  code : Code
  message : Text
  nodeId : Option Text := none
  fieldId : Option Text := none
deriving DecidableEq

namespace Finding

/-- An error. -/
def error (code : Code) (message : Text) (nodeId fieldId : Option Text := none) : Finding :=
  ⟨.error, code, message, nodeId, fieldId⟩

/-- A warning. -/
def warning (code : Code) (message : Text) (nodeId fieldId : Option Text := none) : Finding :=
  ⟨.warning, code, message, nodeId, fieldId⟩

/-- An info. -/
def info (code : Code) (message : Text) (nodeId fieldId : Option Text := none) : Finding :=
  ⟨.info, code, message, nodeId, fieldId⟩

/-- The finding if the condition holds, else nothing. -/
def onlyIf (condition : Bool) (f : Finding) : List Finding := if condition then [f] else []

/-- A finding is reported exactly when its condition holds. -/
@[simp] theorem mem_onlyIf (condition : Bool) (f g : Finding) :
    g ∈ onlyIf condition f ↔ condition = true ∧ g = f := by
  cases condition <;> simp [onlyIf]

/-- The entry of a locator, if there is one. -/
def locatorEntry (name : String) (locator : Option Text) : List (String × Value) :=
  match locator with
  | some t => [(name, .text t)]
  | none => []

/-- The wire shape. -/
def wire (f : Finding) : Value :=
  Value.ofFields
    ([("type", .text f.severity.name), ("code", .text f.code.name), ("message", .text f.message)] ++
      locatorEntry "nodeId" f.nodeId ++ locatorEntry "field" f.fieldId)

/-- Every field under its own name, absent locators as null. -/
def record (f : Finding) : Value :=
  Value.ofFields
    [("severity", .text f.severity.name), ("code", .text f.code.name),
     ("message", .text f.message), ("node_id", Value.ofText? f.nodeId),
     ("field_id", Value.ofText? f.fieldId)]

/-- Reads a finding from the entries of a mapping; of several names of a field the first one
present counts. -/
def ofEntries (es : Entries) : Shaped Finding :=
  Finding.mk <$> es.required ["severity", "type"] (readChoice Severity.ofName?)
    <*> es.required ["code"] (readChoice Code.ofName?)
    <*> es.required ["message"] readText
    <*> es.optional ["node_id", "nodeId"] none (readOptional readText)
    <*> es.optional ["field_id", "field", "fieldId"] none (readOptional readText)

/-- Reads a finding. -/
def read (v : Value) : Shaped Finding := readModel ofEntries v

/-- **What is written reads back**, absent and empty locators included. -/
theorem read_wire (f : Finding) : read f.wire = .good f := by
  obtain ⟨severity, code, message, nodeId, fieldId⟩ := f
  cases nodeId <;> cases fieldId <;>
    simp [read, wire, readModel, Value.ofFields, locatorEntry, ofEntries, Entries.required,
      Entries.optional, Entries.first?, Entries.get?, OrderedMap.lookup, readChoice, readText,
      readOptional, Severity.ofName?_name, Code.ofName?_name, Shaped.within, Seq.seq,
      Functor.map, Shaped.apply]

end Finding

end WorkflowGate
