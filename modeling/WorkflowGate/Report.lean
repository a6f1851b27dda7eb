/-
# Reports

A report holds the findings of a run by severity.  Within a severity they keep the order in which
they were found.  A workflow is valid when its report has no error.

* `bySeverity_ofFindings`: each severity holds its findings, in order;
* `isValid_ofFindings_iff`: valid means that no finding is an error;
* `bySeverity_ofFindings_append`: later findings go behind the earlier ones of their severity.
-/
import WorkflowGate.Fault
import WorkflowGate.Finding.Basic

namespace WorkflowGate

/-- The findings of a run by severity. -/
structure Report where
  errors : List Finding := []
  warnings : List Finding := []
  infos : List Finding := []
deriving DecidableEq

namespace Report

/-! ## 1. Findings by severity -/

/-- The findings of a severity, in order. -/
def select (severity : Severity) (fs : List Finding) : List Finding :=
  fs.filter fun f => f.severity = severity

/-- The report on findings. -/
def ofFindings (fs : List Finding) : Report :=
  ⟨select .error fs, select .warning fs, select .info fs⟩

/-- The findings of a severity. -/
def bySeverity (r : Report) : Severity → List Finding
  | .error => r.errors
  | .warning => r.warnings
  | .info => r.infos

/-- The severity with the given name. -/
def severityOf (v : Value) : Except Fault Severity :=
  match v.text?.bind Severity.ofName? with
  | some s => .ok s
  | none => .error (.unknownSeverity v.literal)

/-- All findings, the gravest first. -/
def all (r : Report) : List Finding := r.errors ++ r.warnings ++ r.infos

/-- A workflow is valid when nothing is an error. -/
def isValid (r : Report) : Bool := r.errors.isEmpty

/-- The findings on a node, or those on no node. -/
def forNode (r : Report) (nodeId : Option Text) : List Finding :=
  r.all.filter fun f => f.nodeId = nodeId

/-- Does a finding have the code with this name? -/
def hasCode (r : Report) (name : Text) : Bool :=
  r.all.any fun f => Text.ofString f.code.name = name

/-- The names of the codes of all findings. -/
def codes (r : Report) : List Text := r.all.map fun f => Text.ofString f.code.name

/-- Each severity holds its findings, in order. -/
@[simp] theorem bySeverity_ofFindings (fs : List Finding) (s : Severity) :
    (ofFindings fs).bySeverity s = select s fs := by
  cases s <;> rfl

/-- Later findings go behind the earlier ones of their severity. -/
theorem bySeverity_ofFindings_append (fs gs : List Finding) (s : Severity) :
    (ofFindings (fs ++ gs)).bySeverity s =
      (ofFindings fs).bySeverity s ++ (ofFindings gs).bySeverity s := by
  simp [select]

/-- A report is valid exactly when no finding is an error. -/
theorem isValid_ofFindings_iff (fs : List Finding) :
    (ofFindings fs).isValid = true ↔ ∀ f ∈ fs, f.severity ≠ .error := by
  simp [isValid, ofFindings, select]

/-! ## 2. For machines -/

/-- The wire shape. -/
def wire (r : Report) : Value :=
  Value.ofFields
    [("isValid", .bool r.isValid), ("errors", .list (r.errors.map Finding.wire)),
     ("warnings", .list (r.warnings.map Finding.wire)), ("info", .list (r.infos.map Finding.wire))]

/-- Every finding with every field. -/
def record (r : Report) : Value :=
  Value.ofFields
    [("errors", .list (r.errors.map Finding.record)),
     ("warnings", .list (r.warnings.map Finding.record)),
     ("info", .list (r.infos.map Finding.record)), ("is_valid", .bool r.isValid)]

/-! ## 3. For people -/

/-- A count with its word, in the plural if there are several. -/
def counted (count : Nat) (word : String) : Text :=
  Text.ofNat count ++ " " ++ Text.ofString word ++ Text.ofString (if count > 1 then "s" else "")

/-- A part of the summary, if there is anything to say. -/
def partIf (n : Nat) (part : Text) : List Text := if n = 0 then [] else [part]

/-- The report in a line. -/
def summary (r : Report) : Text :=
  if r.all.isEmpty then "✅ Workflow is valid"
  else
    Text.join " • "
      ((if r.isValid then [Text.ofString "✅ No errors"]
        else [Text.ofString "❌ " ++ counted r.errors.length "error"]) ++
        partIf r.warnings.length (Text.ofString "⚠️ " ++ counted r.warnings.length "warning") ++
        partIf r.infos.length
          (Text.ofString "ℹ️ " ++ Text.ofNat r.infos.length ++ Text.ofString " info"))

/-- The sign of a severity. -/
def sign : Severity → String
  | .error => "❌"
  | .warning => "⚠️"
  | .info => "ℹ️"

/-- A locator that says something. -/
def named (locator : Option Text) : Option Text := locator.filter fun t => !t.isEmpty

/-- Where a finding is, for people. -/
def whereabouts (f : Finding) : Text :=
  match named f.nodeId, named f.fieldId with
  | some n, some field => " (node " ++ n ++ ", field " ++ field ++ ")"
  | some n, none => " (node " ++ n ++ ")"
  | none, _ => Text.empty

/-- A finding on a line. -/
def line (f : Finding) : Text :=
  "  " ++ Text.ofString (sign f.severity) ++ " " ++ Text.ofString f.code.name ++ ": " ++ f.message ++
    whereabouts f

/-- The summary and a line for each finding. -/
def render (r : Report) : Text := Text.join "\n" (r.summary :: r.all.map line)

end Report

end WorkflowGate
