/-
# Handles

Both ends of an edge must attach to handles that the kinds of its nodes declare, where they declare
any.  A handle may carry a suffix (`case-3` where `case` is declared), so it matches when its name
holds a declared one.  A handle that does not match is only a warning: the editor can mend it.

* `handleMatches_of_mem`: a declared handle matches.
-/
import WorkflowGate.Graph.Snapshot
import WorkflowGate.Run

namespace WorkflowGate

/-- Does the handle match one of the declared ones? -/
def handleMatches (handle : Text) (declared : List Text) : Bool :=
  declared.any fun id => handle.contains id

/-- A declared handle matches. -/
theorem handleMatches_of_mem {handle : Text} {declared : List Text} (h : handle ∈ declared) :
    handleMatches handle declared = true :=
  List.any_eq_true.mpr ⟨handle, h, (Text.contains_iff _ _).mpr (List.infix_refl _)⟩

namespace Snapshot

/-- The warning on a handle that the schema of its node does not declare. -/
def handleFinding (code : Code) (edgeTo what : String) (n : Node) (handle : Text)
    (declared : Option (List Text)) : List Finding :=
  Finding.onlyIf (declared.any fun ids => !handleMatches handle ids)
    (.warning code
      (Text.ofString edgeTo ++ " \"" ++ n.displayName ++ "\" uses non-existent " ++
        Text.ofString what ++ " handle \"" ++ handle ++ "\"") n.id)

/-- The findings on the handle at one end of an edge; the schema is looked up only for a handle that
is named. -/
def endFindings (s : Snapshot) (id : Text) (handle : Option Text)
    (declared : KindSchema → Option (List Text)) (code : Code) (edgeTo what : String) :
    Run (List Finding) :=
  match s.nodes.find? id, Edge.namedHandle handle with
  | some n, some h => do
    let schema ← Run.resolve n.kind
    return handleFinding code edgeTo what n h (schema.bind declared)
  | _, _ => return []

/-- The findings on the handles of one edge. -/
def handleFindingsOf (s : Snapshot) (e : Edge) : Run (List Finding) := do
  let atSource ← s.endFindings e.source e.sourceHandle (·.outputs) .invalidSourceHandle
    "Edge from" "output"
  let atTarget ← s.endFindings e.target e.targetHandle (·.inputs) .invalidTargetHandle
    "Edge to" "input"
  return atSource ++ atTarget

/-- The findings on the handles of all edges. -/
def handleFindings (s : Snapshot) : Run (List Finding) :=
  List.flatten <$> s.edges.mapM s.handleFindingsOf

end Snapshot

end WorkflowGate
