/-
# Capital and small letters

The capital and the small form of a text under the full case mappings, where one code point may
become several.  The Greek capital sigma becomes a final sigma at the end of a word: when a cased
code point comes before it and none comes after it, the passed-over ones not counted.
-/
import WorkflowGate.Text.CaseTable

namespace WorkflowGate

namespace CaseTable

/-- The image of a code point: its expansion, else its counterpart along a run, else itself. -/
def image (expansions : List (Nat × List Nat)) (runs : List Run) (p : CodePoint) : List CodePoint :=
  match expansions.lookup p.val with
  | some points => points.map CodePoint.ofNat
  | none => [((runs.findSome? fun r => r.image? p.val).map CodePoint.ofNat).getD p]

/-- The nearest neighbour that is not passed over has case. -/
def casedNeighbour (neighbours : List CodePoint) : Bool :=
  match neighbours.dropWhile (passedOver.covers ·.val) with
  | [] => false
  | p :: _ => cased.covers p.val

/-- The small form of a code point, given what stands before it, nearest first, and after it. -/
def smallForm (before : List CodePoint) (p : CodePoint) (after : List CodePoint) : List CodePoint :=
  if p.val = 0x3A3 then
    [if casedNeighbour before && !casedNeighbour after then CodePoint.ofNat 0x3C2
     else CodePoint.ofNat 0x3C3]
  else image smallExpansions smallRuns p

/-- The small forms of the remaining code points, in order; `before` is what has been passed. -/
def smallForms (before : List CodePoint) : List CodePoint → List (List CodePoint)
  | [] => []
  | p :: rest => smallForm before p rest :: smallForms (p :: before) rest

end CaseTable

namespace Text

/-- The text in capitals. -/
def toUpper (t : Text) : Text :=
  ⟨t.points.flatMap (CaseTable.image CaseTable.capitalExpansions CaseTable.capitalRuns)⟩

/-- The text in small letters. -/
def toLower (t : Text) : Text := ⟨(CaseTable.smallForms [] t.points).flatten⟩

end Text

end WorkflowGate
