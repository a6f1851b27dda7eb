/-
# Fields and credentials

The values of every node against the schema of its kind: required fields must hold something, values
must have the declared shape, fields for credentials must refer to one.  Refinements run on top.  An
expression is not judged, since its value is known only when the workflow runs.

* `shapeFinding_of_expression`: an expression is never reported as misshapen.
-/
import WorkflowGate.Check.Refinement
import WorkflowGate.Graph.Snapshot
import WorkflowGate.Room
import WorkflowGate.Run

namespace WorkflowGate

namespace Node

/-- The name of a node at the beginning of a message. -/
def subject (n : Node) : Text := "Node \"" ++ n.displayName ++ "\""

/-! ## 1. Required fields -/

/-- The error on a required field that holds nothing.  Owned fields and credentials are checked
elsewhere. -/
def missingField (n : Node) (owned : List Text) (spec : FieldSpec) : List Finding :=
  Finding.onlyIf (!owned.contains spec.id && !spec.holdsCredential && (n.get spec.id).isMissing)
    (.error .missingRequiredField
      (n.subject ++ " is missing required field \"" ++ spec.displayLabel ++ "\"") n.id spec.id)

/-- The errors on required fields that hold nothing. -/
def missingFields (n : Node) (owned : List Text) (schema : KindSchema) : List Finding :=
  schema.requiredFields.flatMap (n.missingField owned)

/-! ## 2. Shapes -/

/-- Does the text fail to be JSON?  A text that only holds an integer with too many digits is a
fault. -/
def isBrokenJson [Room] (t : Text) : Except Fault Bool :=
  match Json.read Room.field t with
  | .ok _ => .ok false
  | .error (.malformed _ _) => .ok true
  | .error f => .error (.notJson f)

/-- The error on a value without the shape that its field declares. -/
def misshapen [Room] (n : Node) (spec : FieldSpec) (v : Value) : Except Fault (List Finding) :=
  match spec.valueKind, v with
  | .json, .text t => do
    return Finding.onlyIf (← isBrokenJson t)
      (.error .invalidJson (n.subject ++ " has invalid " ++ spec.id ++ " JSON") n.id spec.id)
  | .url, v =>
    .ok (Finding.onlyIf (!v.isUrl)
      (.error .invalidUrl
        (n.subject ++ " has invalid URL format in \"" ++ spec.displayLabel ++ "\"") n.id spec.id))
  | .number, v => do
    return Finding.onlyIf (← v.asNumber).isNone
      (.error .invalidNumber
        (n.subject ++ " field \"" ++ spec.displayLabel ++ "\" must be a number") n.id spec.id)
  | _, _ => .ok []

/-- The error on the value of a field, unless it is blank or an expression. -/
def shapeFinding [Room] (n : Node) (spec : FieldSpec) : Except Fault (List Finding) :=
  let v := n.get spec.id
  if v.isBlank || v.isExpression then .ok [] else n.misshapen spec v

/-- An expression is never reported as misshapen. -/
theorem shapeFinding_of_expression {n : Node} {spec : FieldSpec}
    (h : (n.get spec.id).isExpression = true) : n.shapeFinding spec = .ok [] := by
  simp [shapeFinding, h]

/-- What a schema has to say of a node. -/
def schemaFindings [Room] (n : Node) (owned : List Text) (schema : KindSchema) :
    Except Fault (List Finding) := do
  return n.missingFields owned schema ++ (← schema.fields.mapM n.shapeFinding).flatten

/-! ## 3. One node -/

/-- The warning on a node whose schema could not be read. -/
def unreadableSchema (n : Node) : Finding :=
  .warning .invalidNodeSchema
    ("Schema for node type \"" ++ n.kind ++ "\" could not be read; fields of \"" ++ n.displayName ++
      "\" were not checked") n.id

/-- What the refinements of its kind say of a node. -/
def refinementFindings (n : Node) (refinements : RefinementRegistry) (schema : Option KindSchema) :
    Run (List Finding) := do
  let said ← (refinements.forKind n.kind).mapM fun r => do
    let (findings, records) ← Run.lift (r.run n schema)
    Run.record records
    return findings
  return said.flatten

/-- The findings on the fields of a node that has a kind. -/
def fieldFindings [Room] (n : Node) (refinements : RefinementRegistry) : Run (List Finding) := do
  let schema ← Run.resolve n.kind
  let rejected ← Run.rejectedKinds
  let unreadable :=
    Finding.onlyIf (schema.isNone && rejected.contains n.kind) n.unreadableSchema
  let general ←
    match schema with
    | some s => Run.lift (n.schemaFindings (refinements.ownedFields n.kind) s)
    | none => pure []
  return unreadable ++ general ++ (← n.refinementFindings refinements schema)

/-- The errors on fields for credentials that refer to none. -/
def missingCredentials (n : Node) (schema : KindSchema) : List Finding :=
  schema.credentialFields.flatMap fun spec =>
    Finding.onlyIf (n.get spec.id).isBlank
      (.error .missingCredential (n.subject ++ " requires a credential") n.id spec.id)

end Node

namespace Snapshot

/-! ## 4. All nodes -/

/-- The findings on the fields of all nodes that have a kind. -/
def fieldFindings [Room] (s : Snapshot) (refinements : RefinementRegistry) : Run (List Finding) :=
  List.flatten <$> s.nodeList.mapM fun n =>
    if n.kind.isEmpty then pure [] else n.fieldFindings refinements

/-- The findings on the credentials of all nodes. -/
def credentialFindings (s : Snapshot) : Run (List Finding) :=
  List.flatten <$> s.nodeList.mapM fun n => do
    match ← Run.resolve n.kind with
    | some schema => return n.missingCredentials schema
    | none => return []

end Snapshot

end WorkflowGate
