/-
# Branches

A node that branches in two should have an edge for either outcome, one that branches in many should
have several cases and a default.  Which edge is for which outcome is read off its source handle.
-/
import WorkflowGate.Check.Fields

namespace WorkflowGate

/-- The kind that branches in two. -/
def ifKind : Text := "if"

/-- The kind that branches in many. -/
def switchKind : Text := "switch"

/-- How many cases a node that branches in many should have. -/
def minSwitchCases : Nat := 2

namespace Value

/-- How many cases a value lists: it may be a list, a mapping, or the JSON text of one. -/
def listedCases : Value → Nat
  | list items => items.length
  | tuple items => items.length
  | mapping es => es.length
  | _ => 0

/-- How many cases the value of a field lists. -/
def countCases [Room] : Value → Except Fault Nat
  | text t =>
    match Json.read Room.field t with
    | .ok v => .ok v.listedCases
    | .error (.malformed _ _) => .ok 0
    | .error f => .error (.notJson f)
  | v => .ok v.listedCases

end Value

namespace Snapshot

/-- The named handles that the edges of a node leave. -/
def handlesOut (s : Snapshot) (id : Text) : List Text :=
  (s.edgesFrom id).filterMap fun e => Edge.namedHandle e.sourceHandle

/-- Does one of the handles have the word in its name? -/
def anyMentions (handles : List Text) (word : Text) : Bool := handles.any fun h => h.contains word

/-- The warning on the outcomes of a node that branches in two. -/
def outcomeFindings (n : Node) (hasTrue hasFalse : Bool) : List Finding :=
  if !hasTrue && !hasFalse then
    [.warning .noConditionalOutputs
      ("IF node \"" ++ n.displayName ++ "\" has no true/false outputs connected") n.id]
  else
    Finding.onlyIf (!hasFalse)
      (.warning .noElsePath ("IF node \"" ++ n.displayName ++ "\" has no false (else) path") n.id)

/-- The findings on a node that branches in two. -/
def ifFindings (s : Snapshot) (n : Node) : List Finding :=
  let handles := s.handlesOut n.id
  Refinement.requireField .missingCondition "IF node" "requires a condition" "condition" n ++
    outcomeFindings n (anyMentions handles "true") (anyMentions handles "false")

/-- The findings on a node that branches in many. -/
def switchFindings [Room] (s : Snapshot) (n : Node) : Except Fault (List Finding) := do
  let cases ← (n.get "cases").countCases
  let few :=
    Finding.onlyIf (cases < minSwitchCases)
      (.warning .insufficientCases
        ("Switch node \"" ++ n.displayName ++ "\" should have at least " ++
          Text.ofNat minSwitchCases ++ Text.ofString " cases") n.id (some "cases"))
  let open? :=
    Finding.onlyIf (!anyMentions (s.handlesOut n.id) "default")
      (.warning .noDefaultCase ("Switch node \"" ++ n.displayName ++ "\" has no default case") n.id)
  return few ++ open?

/-- The findings on one node. -/
def branchFindingsOf [Room] (s : Snapshot) (n : Node) : Except Fault (List Finding) :=
  if n.kind = ifKind then .ok (s.ifFindings n)
  else if n.kind = switchKind then s.switchFindings n
  else .ok []

/-- The findings on all nodes that branch. -/
def branchFindings [Room] (s : Snapshot) : Except Fault (List Finding) :=
  List.flatten <$> s.nodeList.mapM s.branchFindingsOf

end Snapshot

end WorkflowGate
