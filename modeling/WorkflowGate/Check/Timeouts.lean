/-
# Timeouts

A node may declare how long it runs at most, under one of two names; the first one that spells a
number counts.  The runtime refuses a timeout that is not positive and one beyond its limit, so both
are errors.
-/
import WorkflowGate.Check.Fields
import WorkflowGate.Settings

namespace WorkflowGate

namespace Node

/-- The names under which a timeout may be declared. -/
def timeoutKeys : List Text := ["timeout_seconds", "timeout_override"]

/-- The first number among the values of the keys. -/
def firstNumber (n : Node) : List Text → Except Fault (Option Binary64)
  | [] => .ok none
  | key :: rest => do
    match ← (n.get key).asNumber with
    | some x => return some x
    | none => n.firstNumber rest

/-- The timeout that the node declares, if it declares one. -/
def declaredTimeout (n : Node) : Except Fault (Option Binary64) := n.firstNumber timeoutKeys

/-- The field that errors on timeouts point at. -/
def timeoutField : Text := "timeout_seconds"

/-- The error on a declared timeout, if it is not positive or beyond the limit. -/
def timeoutError (n : Node) (timeout : Binary64) (limit : Value) : Except Fault (List Finding) := do
  if timeout.le .zero then
    return [.error .invalidTimeout (n.subject ++ " timeout must be greater than 0") n.id
      timeoutField]
  else if ← (Value.float timeout).exceeds limit then
    let shown ← limit.toFloat
    return [.error .timeoutExceedsLimit
      (n.subject ++ " timeout exceeds maximum (" ++ Text.ofString shown.toSixDigits ++ "s)") n.id
      timeoutField]
  else return []

/-- The error on the timeout of a node. -/
def timeoutFindings (n : Node) (limit : Value) : Except Fault (List Finding) := do
  match ← n.declaredTimeout with
  | some timeout => n.timeoutError timeout limit
  | none => return []

/-- How long the node counts for in an estimate: its timeout if that is positive, else the
default. -/
def estimatedSeconds (n : Node) (default : Value) : Except Fault Binary64 := do
  match ← n.declaredTimeout with
  | some timeout => if Binary64.zero.lt timeout then return timeout else default.toFloat
  | none => default.toFloat

end Node

namespace Snapshot

/-- The errors on the timeouts of all nodes. -/
def timeoutFindings (s : Snapshot) (settings : Settings) : Except Fault (List Finding) :=
  List.flatten <$> s.nodeList.mapM (·.timeoutFindings settings.maxNodeTimeout)

/-- How long a run may take: the sum over all nodes. -/
def estimateRuntime (s : Snapshot) (settings : Settings) : Except Fault Binary64 :=
  s.nodeList.foldlM (fun total n => return total.add (← n.estimatedSeconds settings.defaultNodeTimeout))
    Binary64.zero

end Snapshot

end WorkflowGate
