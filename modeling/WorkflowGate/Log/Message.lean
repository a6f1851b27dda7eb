/-
# Messages with placeholders

The message of a record may hold placeholders, which are filled by the record's arguments in turn.
Without arguments a message stands as it is, percent signs included.
-/
import WorkflowGate.Log.Placeholder

namespace WorkflowGate.Message

/-- Fills placeholders one after the other; two percent signs stand for one.  What is left of the
arguments at the end must be nothing, unless they are the entries of one value. -/
def fillFrom (index : Nat) (ps : List CodePoint) (a : Arguments) : Except Fault Text :=
  match ps with
  | [] => if a.areUsed then .ok Text.empty else .error .formatMismatch
  | p :: behind =>
    if p ≠ ('%' : Char) then (fun t => (⟨[p]⟩ : Text) ++ t) <$> fillFrom (index + 1) behind a
    else if behind.head? = some (CodePoint.ofChar '%') then
      (fun t => (⟨[p]⟩ : Text) ++ t) <$> fillFrom (index + 2) (behind.drop 1) a
    else
      match Placeholder.fill (index + 1) behind a with
      | .error f => .error f
      | .ok (shown, rest, a) =>
        let used := behind.length - rest.length
        (fun t => shown ++ t) <$> fillFrom (index + 1 + used) (behind.drop used) a
termination_by ps.length
decreasing_by all_goals simp only [List.length_cons, List.length_drop]; omega

/-- The arguments of a message as one value: a single mapping that is not empty stands for itself. -/
def argument : List Value → Value
  | [.mapping (e :: es)] => .mapping (e :: es)
  | args => .tuple args

/-- The message with its placeholders filled by what a value stands for. -/
def fill (template : Text) (argument : Value) : Except Fault Text :=
  if argument.truthy then fillFrom 0 template.points (.ofValue argument) else .ok template

end WorkflowGate.Message
