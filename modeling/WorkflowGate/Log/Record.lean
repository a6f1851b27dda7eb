/-
# Records of the log

Analyses do not write; they return the records that a log would hold, in order.  A record has a
channel, a level, a message, and attributes such as the event it reports or the node it concerns.
-/
import WorkflowGate.Value

namespace WorkflowGate

/-- How urgent a record is. -/
inductive LogLevel
  | unset
  | debug
  | info
  | warning
  | error
  | critical
deriving DecidableEq

namespace LogLevel

/-- The published name. -/
def name : LogLevel → String
  | unset => "NOTSET"
  | debug => "DEBUG"
  | info => "INFO"
  | warning => "WARNING"
  | error => "ERROR"
  | critical => "CRITICAL"

/-- The number by which levels are compared. -/
def number : LogLevel → Nat
  | unset => 0
  | debug => 10
  | info => 20
  | warning => 30
  | error => 40
  | critical => 50

/-- The names that may be given, two of them second names. -/
def names : List (String × LogLevel) :=
  [("NOTSET", unset), ("DEBUG", debug), ("INFO", info), ("WARNING", warning), ("WARN", warning),
   ("ERROR", error), ("CRITICAL", critical), ("FATAL", critical)]

/-- The level with a name. -/
def ofName? (t : Text) : Option LogLevel :=
  (names.find? fun n => Text.ofString n.1 = t).map Prod.snd

end LogLevel

/-- The parts of the program that write to the log. -/
inductive Channel
  | graph
  | cycles
  | reachability
  | schemas
  | fields
  | backend
  | gate
deriving DecidableEq

/-- The published name of a channel. -/
def Channel.name : Channel → String
  | graph => "flowcheck.graph.model"
  | cycles => "flowcheck.graph.cycles"
  | reachability => "flowcheck.graph.reachability"
  | schemas => "flowcheck.schema.registry"
  | fields => "flowcheck.validation.fields"
  | backend => "flowcheck.validation.remote"
  | gate => "flowcheck.validation.validator"

/-- One record.  Its level may go by a word of its own, and it may tell of an exception. -/
structure LogRecord where
  channel : Text
  level : LogLevel
  message : Text
  attributes : List (Text × Value) := []
  word : Option Text := none
  exception : Option Text := none

namespace LogRecord

/-- A record of one of the program's own channels. -/
def of (channel : Channel) (level : LogLevel) (message : Text)
    (attributes : List (String × Value) := []) : LogRecord :=
  { channel := channel.name, level := level, message := message,
    attributes := attributes.map fun a => (Text.ofString a.1, a.2) }

/-- The word for the level. -/
def levelWord (r : LogRecord) : Text := r.word.getD r.level.name

/-- The value of an attribute; an absent one is null. -/
def attributeValue (r : LogRecord) (name : String) : Value :=
  (OrderedMap.lookup (Text.ofString name) r.attributes).getD .null

end LogRecord

end WorkflowGate
