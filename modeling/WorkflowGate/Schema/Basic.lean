/-
# Schemas of node kinds

A schema describes one kind of node: its category, the fields of its form and the handles that edges
may attach to.  A kind may leave its handles undeclared (`none`), which is not the same as having
none (`some []`).
-/
import WorkflowGate.Shape

namespace WorkflowGate

/-- The broad family of a node kind. -/
inductive KindCategory
  | trigger
  | controlFlow
  | llm
  | integration
  | transform
  | subworkflow
  | generic
deriving DecidableEq, Repr

namespace KindCategory

/-- The published name. -/
def name : KindCategory → String
  | trigger => "trigger"
  | controlFlow => "control_flow"
  | llm => "llm"
  | integration => "integration"
  | transform => "transform"
  | subworkflow => "subworkflow"
  | generic => "generic"

/-- All categories. -/
def all : List KindCategory :=
  [trigger, controlFlow, llm, integration, transform, subworkflow, generic]

/-- The category with a published name. -/
def ofName? (t : Text) : Option KindCategory := all.find? fun c => Text.ofString c.name = t

/-- A published name reads back as its category. -/
theorem ofName?_name (c : KindCategory) : ofName? c.name = some c := by
  cases c <;> decide

end KindCategory

/-- The shape that a field's value is expected to have. -/
inductive ValueKind
  | text
  | textarea
  | number
  | boolean
  | checkbox
  | select
  | json
  | code
  | url
  | cron
  | credential
  | password
deriving DecidableEq, Repr

namespace ValueKind

/-- The published name. -/
def name : ValueKind → String
  | text => "text"
  | textarea => "textarea"
  | number => "number"
  | boolean => "boolean"
  | checkbox => "checkbox"
  | select => "select"
  | json => "json"
  | code => "code"
  | url => "url"
  | cron => "cron"
  | credential => "credential"
  | password => "password"

/-- All shapes. -/
def all : List ValueKind :=
  [text, textarea, number, boolean, checkbox, select, json, code, url, cron, credential, password]

/-- The shape with a published name. -/
def ofName? (t : Text) : Option ValueKind := all.find? fun k => Text.ofString k.name = t

end ValueKind

/-- One field of a form.  `extra` holds what the palette says beyond the known entries. -/
structure FieldSpec where
  id : Text
  label : Text := Text.empty
  valueKind : ValueKind := .text
  required : Bool := false
  isCredential : Bool := false
  minimum : Option Binary64 := none
  maximum : Option Binary64 := none
  description : Text := Text.empty
  extra : List (Text × Value) := []

namespace FieldSpec

/-- The label, or the id when the label is empty. -/
def displayLabel (f : FieldSpec) : Text := if f.label.isEmpty then f.id else f.label

/-- Does the field refer to a credential?  A plain selection named `credential` does too. -/
def holdsCredential (f : FieldSpec) : Bool :=
  f.isCredential || f.valueKind = .credential ||
    (f.valueKind = .select && f.id = Text.ofString "credential")

end FieldSpec

/-- What is known of one kind of node. -/
structure KindSchema where
  kind : Text
  displayName : Text := Text.empty
  category : KindCategory := .generic
  description : Text := Text.empty
  fields : List FieldSpec := []
  inputs : Option (List Text) := none
  outputs : Option (List Text) := none
  extra : List (Text × Value) := []

namespace KindSchema

/-- The first field with the id. -/
def field? (s : KindSchema) (id : Text) : Option FieldSpec := s.fields.find? (·.id = id)

/-- The fields that refer to a credential. -/
def credentialFields (s : KindSchema) : List FieldSpec := s.fields.filter (·.holdsCredential)

/-- The required fields. -/
def requiredFields (s : KindSchema) : List FieldSpec := s.fields.filter (·.required)

end KindSchema

end WorkflowGate
