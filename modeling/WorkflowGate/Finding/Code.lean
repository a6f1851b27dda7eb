/-
# Severities and finding codes

The closed vocabulary of a validation run.  A code has a stable published name; adding one is a
minor change of the taxonomy, renaming or removing one a major change.

* `Code.ofName?_name`, `Severity.ofName?_name`: a published name reads back as its code;
* `Code.mem_all`: the list of codes is complete.
-/
import WorkflowGate.Text.Basic

namespace WorkflowGate

/-- How much a finding matters: an error blocks saving and running, a warning and an info do
not. -/
inductive Severity
  | error
  | warning
  | info
deriving DecidableEq, Repr

namespace Severity

/-- The published name. -/
def name : Severity → String
  | error => "error"
  | warning => "warning"
  | info => "info"

/-- All severities, the gravest first. -/
def all : List Severity := [error, warning, info]

/-- The severity with a published name. -/
def ofName? (t : Text) : Option Severity := all.find? fun s => Text.ofString s.name = t

/-- A published name reads back as its severity. -/
theorem ofName?_name (s : Severity) : ofName? s.name = some s := by
  cases s <;> decide

end Severity

/-- What a finding is about. -/
inductive Code
  | invalidGraphInput
  | malformedNode
  | malformedEdge
  | duplicateNodeId
  | duplicateEdgeId
  | missingNodeKind
  | unknownEdgeSource
  | unknownEdgeTarget
  | emptyWorkflow
  | noTrigger
  | multipleTriggers
  | cycleDetected
  | nodeInCycle
  | orphanNode
  | unreachableNode
  | conditionallyReachable
  | invalidNodeSchema
  | missingRequiredField
  | missingCredential
  | invalidJson
  | invalidUrl
  | invalidNumber
  | invalidTemperature
  | missingPrompt
  | missingBody
  | missingCode
  | missingCron
  | missingWorkflowId
  | invalidTimeout
  | timeoutExceedsLimit
  | refinementFailed
  | missingCondition
  | noConditionalOutputs
  | noElsePath
  | insufficientCases
  | noDefaultCase
  | complexWorkflow
  | manyLlmNodes
  | manySubworkflows
  | longExecutionTime
  | invalidSourceHandle
  | invalidTargetHandle
  | backendValidationUnavailable
  | subworkflowCycle
  | typeMismatch
  | credentialNotOwned
  | maxNestingExceeded
  | remoteFinding
deriving DecidableEq, Repr

namespace Code

/-- The published name. -/
def name : Code → String
  | invalidGraphInput => "INVALID_GRAPH_INPUT"
  | malformedNode => "MALFORMED_NODE"
  | malformedEdge => "MALFORMED_EDGE"
  | duplicateNodeId => "DUPLICATE_NODE_ID"
  | duplicateEdgeId => "DUPLICATE_EDGE_ID"
  | missingNodeKind => "MISSING_NODE_KIND"
  | unknownEdgeSource => "UNKNOWN_EDGE_SOURCE"
  | unknownEdgeTarget => "UNKNOWN_EDGE_TARGET"
  | emptyWorkflow => "EMPTY_WORKFLOW"
  | noTrigger => "NO_TRIGGER"
  | multipleTriggers => "MULTIPLE_TRIGGERS"
  | cycleDetected => "CYCLE_DETECTED"
  | nodeInCycle => "NODE_IN_CYCLE"
  | orphanNode => "ORPHAN_NODE"
  | unreachableNode => "UNREACHABLE_NODE"
  | conditionallyReachable => "CONDITIONALLY_REACHABLE"
  | invalidNodeSchema => "INVALID_NODE_SCHEMA"
  | missingRequiredField => "MISSING_REQUIRED_FIELD"
  | missingCredential => "MISSING_CREDENTIAL"
  | invalidJson => "INVALID_JSON"
  | invalidUrl => "INVALID_URL"
  | invalidNumber => "INVALID_NUMBER"
  | invalidTemperature => "INVALID_TEMPERATURE"
  | missingPrompt => "MISSING_PROMPT"
  | missingBody => "MISSING_BODY"
  | missingCode => "MISSING_CODE"
  | missingCron => "MISSING_CRON"
  | missingWorkflowId => "MISSING_WORKFLOW_ID"
  | invalidTimeout => "INVALID_TIMEOUT"
  | timeoutExceedsLimit => "TIMEOUT_EXCEEDS_LIMIT"
  | refinementFailed => "REFINEMENT_FAILED"
  | missingCondition => "MISSING_CONDITION"
  | noConditionalOutputs => "NO_CONDITIONAL_OUTPUTS"
  | noElsePath => "NO_ELSE_PATH"
  | insufficientCases => "INSUFFICIENT_CASES"
  | noDefaultCase => "NO_DEFAULT_CASE"
  | complexWorkflow => "COMPLEX_WORKFLOW"
  | manyLlmNodes => "MANY_LLM_NODES"
  | manySubworkflows => "MANY_SUBWORKFLOWS"
  | longExecutionTime => "LONG_EXECUTION_TIME"
  | invalidSourceHandle => "INVALID_SOURCE_HANDLE"
  | invalidTargetHandle => "INVALID_TARGET_HANDLE"
  | backendValidationUnavailable => "BACKEND_VALIDATION_UNAVAILABLE"
  | subworkflowCycle => "SUBWORKFLOW_CYCLE"
  | typeMismatch => "TYPE_MISMATCH"
  | credentialNotOwned => "CREDENTIAL_NOT_OWNED"
  | maxNestingExceeded => "MAX_NESTING_EXCEEDED"
  | remoteFinding => "REMOTE_FINDING"

/-- All codes: input shape, structure, fields and credentials, branching, advice, handles, back
end. -/
def all : List Code :=
  [invalidGraphInput, malformedNode, malformedEdge, duplicateNodeId, duplicateEdgeId,
   missingNodeKind, unknownEdgeSource, unknownEdgeTarget, emptyWorkflow, noTrigger,
   multipleTriggers, cycleDetected, nodeInCycle, orphanNode, unreachableNode,
   conditionallyReachable, invalidNodeSchema, missingRequiredField, missingCredential,
   invalidJson, invalidUrl, invalidNumber, invalidTemperature, missingPrompt, missingBody,
   missingCode, missingCron, missingWorkflowId, invalidTimeout, timeoutExceedsLimit,
   refinementFailed, missingCondition, noConditionalOutputs, noElsePath, insufficientCases,
   noDefaultCase, complexWorkflow, manyLlmNodes, manySubworkflows, longExecutionTime,
   invalidSourceHandle, invalidTargetHandle, backendValidationUnavailable, subworkflowCycle,
   typeMismatch, credentialNotOwned, maxNestingExceeded, remoteFinding]

/-- Every code is in the list. -/
theorem mem_all (c : Code) : c ∈ all := by
  cases c <;> decide

/-- The code with a published name. -/
def ofName? (t : Text) : Option Code := all.find? fun c => Text.ofString c.name = t

theorem ofName?_name_of_mem : ∀ c ∈ all, ofName? c.name = some c := by
  decide +kernel

/-- **A published name reads back as its code.** -/
theorem ofName?_name (c : Code) : ofName? c.name = some c := ofName?_name_of_mem c (mem_all c)

end Code

/-- The version of the vocabulary. -/
def taxonomyVersion : String := "1.2"

end WorkflowGate
