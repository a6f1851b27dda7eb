/-
# How asking a back end ends

Asking succeeds, takes too long, fails on the way or is rejected.  Whatever happens, the result is a
list of findings: those of the back end, or one warning that it could not be asked.

* `findings_of_not_ok`: a failure leaves exactly one warning;
* `severity_of_not_ok`: so a failure never makes a valid workflow invalid.
-/
import WorkflowGate.Finding.Basic

namespace WorkflowGate

/-- How asking a back end ended. -/
inductive OutcomeStatus
  | success
  | timeout
  | transportError
  | rejected
deriving DecidableEq

/-- The published name. -/
def OutcomeStatus.name : OutcomeStatus → String
  | success => "success"
  | timeout => "timeout"
  | transportError => "transport_error"
  | rejected => "rejected"

/-- What asking a back end came to. -/
structure Outcome where
  status : OutcomeStatus
  reported : List Finding := []
  detail : Text := Text.empty

namespace Outcome

/-- Did the back end answer? -/
def ok (o : Outcome) : Bool := o.status = .success

/-- The warning when a back end could not be asked. -/
def unavailableFinding : Finding :=
  .warning .backendValidationUnavailable
    "Could not perform backend validation. Some issues may not be detected."

/-- The findings that asking adds to a report. -/
def findings (o : Outcome) : List Finding := if o.ok then o.reported else [unavailableFinding]

/-- The outcome when there is no back end to ask. -/
def unavailable (detail : Text) : Outcome := { status := .transportError, detail := detail }

/-- A failure leaves exactly one warning. -/
theorem findings_of_not_ok {o : Outcome} (h : o.status ≠ .success) :
    o.findings = [unavailableFinding] := by
  simp [findings, ok, h]

/-- A failure adds no error. -/
theorem severity_of_not_ok {o : Outcome} (h : o.status ≠ .success) :
    ∀ f ∈ o.findings, f.severity = .warning := by
  rw [findings_of_not_ok h]
  intro f hf
  rw [List.mem_singleton.mp hf]
  rfl

end Outcome

end WorkflowGate
