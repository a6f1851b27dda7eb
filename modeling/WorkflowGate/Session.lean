/-
# Sessions

An editor validates again on every change, and answers may come late.  Each run has a token, larger
for a later run, and only the result of the latest run is published: an older one is dropped.

* `latest_issue`: the token just issued is the latest.
-/
import WorkflowGate.Gate

namespace WorkflowGate

/-- Identifies a run; a larger one is newer. -/
structure RunToken where
  value : Int
deriving DecidableEq

namespace RunToken

instance : LT RunToken := ⟨fun a b => a.value < b.value⟩
instance : LE RunToken := ⟨fun a b => a.value ≤ b.value⟩

instance (a b : RunToken) : Decidable (a < b) := inferInstanceAs (Decidable (a.value < b.value))
instance (a b : RunToken) : Decidable (a ≤ b) := inferInstanceAs (Decidable (a.value ≤ b.value))

end RunToken

/-- A session: the number of the next token, and the latest token if one was issued. -/
structure Session where
  next : Nat := 1
  latest : Option RunToken := none
deriving DecidableEq

namespace Session

/-- Issues the next token. -/
def issue (s : Session) : RunToken × Session :=
  let token : RunToken := ⟨s.next⟩
  (token, ⟨s.next + 1, some token⟩)

/-- Is the token the latest? -/
def isCurrent (s : Session) (token : RunToken) : Bool := s.latest = some token

/-- The record of a result that came too late. -/
def staleRecord (s : Session) (token : RunToken) : LogRecord :=
  .of .gate .debug
    ("Discarding stale validation result (token " ++ Text.ofInt token.value ++ ", latest " ++
      (match s.latest with
        | some t => Text.ofInt t.value
        | none => "None") ++ ")")

/-- The result of a run if it is to be published, with what the log says. -/
def accept {α : Type} (s : Session) (token : RunToken) (result : α) : Option α × List LogRecord :=
  if s.isCurrent token then (some result, []) else (none, [s.staleRecord token])

/-- The token just issued is the latest. -/
@[simp] theorem latest_issue (s : Session) : s.issue.2.latest = some s.issue.1 := rfl

end Session

end WorkflowGate
