/-
# Refinements

Checks that go beyond what a schema can say, registered by kind.  A refinement may *own* fields:
when such a field is missing, the refinement reports it in its own words and the general check keeps
quiet.  A refinement may also fail; that is a warning on its node and stops nothing else, as long as the
log can say which refinement failed and why.

* `mem_ownedFields_iff`: a field is owned when one of the refinements of its kind owns it.
-/
import WorkflowGate.Check.Value
import WorkflowGate.Fault
import WorkflowGate.Finding.Basic
import WorkflowGate.Graph.Element
import WorkflowGate.Log.Record
import WorkflowGate.Schema.Palette
import WorkflowGate.Text.Case

namespace WorkflowGate

/-- What is asked of a thing that the caller supplied: its text, or the fault of asking for it. -/
abbrev Told := Except Fault Text

/-- One check of the nodes of some kinds: it yields findings, or fails with an exception, of which no
more is asked than its text.  A function need not have a name. -/
structure Refinement where
  name : Told
  owns : List Text := []
  check : Node → Option KindSchema → Except Told (List Finding)

namespace Refinement

/-- The warning on a node whose refinement failed. -/
def failureFinding (n : Node) : Finding :=
  .warning .refinementFailed ("Could not fully validate node \"" ++ n.displayName ++ "\"") n.id

/-- The record of a failed refinement. -/
def failureRecord (name : Text) (n : Node) (reason : Text) : LogRecord :=
  .of .fields .warning
    ("Refinement " ++ name ++ " failed on node '" ++ n.id ++ "': " ++ reason)
    [("node_id", .text n.id)]

/-- What a refinement says of a node, its failure included.  A failure that the log cannot tell of is a
fault. -/
def run (r : Refinement) (n : Node) (schema : Option KindSchema) :
    Except Fault (List Finding × List LogRecord) :=
  match r.check n schema with
  | .ok findings => .ok (findings, [])
  | .error reason => do
    let name ← r.name
    let reason ← reason
    return ([failureFinding n], [failureRecord name n reason])

end Refinement

/-- Refinements by kind, in order of registration. -/
structure RefinementRegistry where
  byKind : OrderedMap Text (List Refinement) := OrderedMap.empty

namespace RefinementRegistry

/-- The refinements of a kind. -/
def forKind (g : RefinementRegistry) (kind : Text) : List Refinement :=
  (g.byKind.find? kind).getD []

/-- Registers a refinement for kinds. -/
def register (g : RefinementRegistry) (kinds : List Text) (r : Refinement) : RefinementRegistry :=
  ⟨kinds.foldl (fun m kind => m.insert kind ((m.find? kind).getD [] ++ [r])) g.byKind⟩

/-- The fields that the refinements of a kind own. -/
def ownedFields (g : RefinementRegistry) (kind : Text) : List Text :=
  (g.forKind kind).flatMap (·.owns)

/-- A field is owned when one of the refinements of its kind owns it. -/
theorem mem_ownedFields_iff (g : RefinementRegistry) (kind field : Text) :
    field ∈ g.ownedFields kind ↔ ∃ r ∈ g.forKind kind, field ∈ r.owns := by
  simp [ownedFields]

end RefinementRegistry

/-! ## The built-in refinements -/

namespace Refinement

/-- The reason that a number is out of range. -/
def rangeReason : Told := .ok "int too large to convert to float"

/-- An error when a field is blank. -/
def requireField (code : Code) (what rest : String) (field : Text) (n : Node) : List Finding :=
  Finding.onlyIf (n.get field).isBlank
    (.error code (Text.ofString what ++ " \"" ++ n.displayName ++ "\" " ++ Text.ofString rest) n.id
      field)

/-- A refinement that owns one field and requires it. -/
def requiring (name : String) (code : Code) (what rest : String) (field : Text) : Refinement :=
  { name := .ok name, owns := [field], check := fun n _ => .ok (requireField code what rest field n) }

/-- The bounds of the temperature: those of the schema, else from zero to two. -/
def temperatureBounds (schema : Option KindSchema) : Binary64 × Binary64 :=
  let spec := schema.bind (·.field? "temperature")
  ((spec.bind (·.minimum)).getD .zero, (spec.bind (·.maximum)).getD (.ofRatio false 2 1))

/-- An error when the temperature is a number out of bounds; NaN is out of all bounds. -/
def temperatureFindings (n : Node) (schema : Option KindSchema) : Option Binary64 → List Finding
  | none => []
  | some t =>
    let (low, high) := temperatureBounds schema
    Finding.onlyIf (!(low.le t && t.le high))
      (.error .invalidTemperature
        ("LLM node \"" ++ n.displayName ++ "\" temperature must be between " ++
          Text.ofString low.toSixDigits ++ " and " ++ Text.ofString high.toSixDigits)
        n.id (some "temperature"))

/-- A language model needs a prompt, and a temperature within bounds if it has one. -/
def languageModel : Refinement where
  name := .ok "_llm_node"
  owns := ["prompt"]
  check n schema :=
    match (n.get "temperature").asNumber with
    | .error _ => .error rangeReason
    | .ok t =>
      .ok (requireField .missingPrompt "LLM node" "requires a prompt" "prompt" n ++
        temperatureFindings n schema t)

/-- The methods of requests that usually carry a body. -/
def methodsWithBody : List Text := ["POST", "PUT", "PATCH"]

/-- A request that changes something usually has a body. -/
def httpRequest : Refinement where
  name := .ok "_http_request"
  check n _ :=
    match n.get "method" with
    | .text method =>
      .ok (Finding.onlyIf (methodsWithBody.contains method.toUpper && (n.get "body").isBlank)
        (.warning .missingBody
          ("HTTP " ++ method.toUpper ++ " node \"" ++ n.displayName ++ "\" usually requires a body")
          n.id (some "body")))
    | _ => .ok []

/-- A code node needs code. -/
def code : Refinement := requiring "_code" .missingCode "Code node" "requires code" "code"

/-- A schedule needs an expression for its times. -/
def schedule : Refinement :=
  requiring "_schedule_trigger" .missingCron "Schedule trigger" "requires cron expression"
    "cron_expression"

/-- A call of another workflow needs to name it. -/
def subworkflow : Refinement :=
  requiring "_subworkflow" .missingWorkflowId "Subworkflow node" "must reference a workflow"
    "workflow_id"

end Refinement

/-- The built-in refinements. -/
def RefinementRegistry.builtin : RefinementRegistry :=
  ((((({} : RefinementRegistry).register Palette.llmKinds .languageModel).register
    ["http_request"] .httpRequest).register ["code"] .code).register
    ["schedule_trigger"] .schedule).register ["subworkflow"] .subworkflow

end WorkflowGate
