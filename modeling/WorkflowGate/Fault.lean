/-
# Faults

Malformed graphs, broken schemas and silent back ends are findings, not faults.  A fault is what
stops an operation without a result: a value of the wrong kind where a number or a list is needed, a
settings file that is not UTF-8, an address that is none, an exception of a function that the caller
has supplied.

Each constructor is a cause; `Fault.message` has the wording of those that carry one.
-/
import WorkflowGate.Shape
import WorkflowGate.Json.Reader
import WorkflowGate.Text.Utf8
import WorkflowGate.Url.Label

namespace WorkflowGate

/-- Why an operation stopped without a result. -/
inductive Fault
  /-- A value that one cannot go through; its kind is named. -/
  | notIterable (kind : String)
  /-- A value that is no mapping; its kind is named. -/
  | notAMapping (kind : String)
  /-- A value that cannot be compared with a number. -/
  | incomparable (kind : String)
  /-- A value that cannot be used as a number. -/
  | notANumber (kind : String)
  /-- A value that cannot be used as text. -/
  | notText (kind : String)
  /-- An option that does not exist. -/
  | unknownOption (key : Key)
  /-- Arguments that do not fit the placeholders of a message. -/
  | formatMismatch
  /-- A message whose placeholders cannot be filled; the reason is given. -/
  | unfillable (reason : Text)
  /-- An entry that must be there and is not. -/
  | missingEntry (name : Text)
  /-- A name that is no text. -/
  | nameExpected
  /-- Something that should be a pair and is not; the reason is given. -/
  | notAPair (reason : Text)
  /-- A number beyond the range of floats. -/
  | numberTooLarge
  /-- An integer with more digits than may be written. -/
  | integerTooLong
  /-- A document that holds no workflow. -/
  | notAWorkflow
  /-- A path by which no file can go. -/
  | unusablePath
  /-- Values too deep within others to be taken over. -/
  | tooDeepToTake
  /-- Values too deep within others to be sent. -/
  | tooDeepToSend
  /-- A float that plain data cannot hold. -/
  | notFinite
  /-- Bytes that are not UTF-8. -/
  | undecodable (fault : Utf8.Fault)
  /-- Text that has no UTF-8. -/
  | unencodable
  /-- The operating system refused. -/
  | system (message : Text)
  /-- An address that cannot be parsed. -/
  | invalidAddress
  /-- A host that looks like an encoded name and is none. -/
  | unreadableHost (problem : Label.Problem)
  /-- An address to which nothing can be sent. -/
  | unknownAddressKind (address : Text)
  /-- A value without the shape of the named model. -/
  | shape (model : String) (errors : List ShapeError)
  /-- A kind that a registry already holds. -/
  | alreadyRegistered (kind : Text)
  /-- A word that is no severity. -/
  | unknownSeverity (shown : Text)
  /-- No word where a level of the log must be named. -/
  | levelExpected
  /-- A word that is no level of the log. -/
  | unknownLevel (name : Text)
  /-- A text that is not JSON. -/
  | notJson (fault : Json.ReadFault)
  /-- A function that the caller supplied stopped with an exception of its own, of the named class. -/
  | raised (className : Text)
deriving DecidableEq

namespace Fault

/-- How many problems a model has, in words. -/
def countedProblems (model : String) (count : Nat) : Text :=
  Text.ofNat count ++ Text.ofString (if count = 1 then " validation error" else " validation errors") ++
    " for " ++ Text.ofString model

/-- The wording of a fault. -/
def message : Fault → Text
  | notIterable kind => "'" ++ Text.ofString kind ++ "' object is not iterable"
  | notAMapping kind => "'" ++ Text.ofString kind ++ "' object is not a mapping"
  | shape model errors => countedProblems model errors.length
  | system m => m
  | undecodable f => f.message
  | alreadyRegistered kind => "Node kind '" ++ kind ++ "' is already registered"
  | unknownSeverity shown => shown ++ " is not a valid Severity"
  | unknownLevel name => "Unknown level: " ++ name.quoted
  | notJson f => f.message
  | unfillable reason => reason
  | notAPair reason => reason
  | notAWorkflow => "expected an object with 'nodes' and 'edges'"
  | unusablePath => "embedded null byte"
  | tooDeepToSend => "Circular reference detected (depth exceeded)"
  | notFinite => "Out of range float values are not JSON compliant"
  | unknownAddressKind address => "unknown url type: " ++ address.quoted
  | integerTooLong =>
    "Exceeds the limit (4300 digits) for integer string conversion; " ++
      Text.ofString "use sys.set_int_max_str_digits() to increase the limit"
  | _ => Text.empty

/-- The class of exceptions that say that an iteration is over. -/
def endOfIteration : Text := "StopIteration"

/-- Can the fault be handed from the thread in which it came up to whoever waits for that thread?  The
end of an iteration cannot: it would end what is waiting. -/
def isHandedOver : Fault → Bool
  | raised className => className ≠ endOfIteration
  | _ => true

/-- Was there too little room on the stack? -/
def lacksRoom : Fault → Bool
  | tooDeepToTake => true
  | notJson .nestedTooDeep => true
  | _ => false

/-- A shaped reading as a result: what is wrong becomes a fault of the model. -/
def ofShaped {α : Type} (model : String) : Shaped α → Except Fault α
  | .good a => .ok a
  | .bad errors => .error (.shape model errors)

end Fault

end WorkflowGate
