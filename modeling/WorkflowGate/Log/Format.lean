/-
# Lines of the log

A record is written in one of two styles: as a JSON mapping for machines, or as a coloured line for
people.  The identity of the run (`Trace`) goes into every line, so that no analysis has to pass it
along.
-/
import WorkflowGate.Fault
import WorkflowGate.Json.Printer
import WorkflowGate.Log.Colour
import WorkflowGate.Log.Record
import WorkflowGate.Text.Case

namespace WorkflowGate

/-- What a run adds to each of its records. -/
abbrev Trace := OrderedMap Text Value

namespace Trace

/-- Adds fields; one that is there already keeps its place. -/
def merge (t : Trace) (fields : List (Text × Value)) : Trace :=
  fields.foldl (fun t field => t.insert field.1 field.2) t

/-- The value of a field; an absent one is null. -/
def get (t : Trace) (name : Text) : Value := (t.find? name).getD .null

/-- The identity of a run. -/
def ofRun (id : Text) (token : Value) : Trace :=
  merge OrderedMap.empty [("validation_id", .text id), ("run_token", token)]

end Trace

/-- How records are written. -/
inductive LogStyle
  | structured
  | human
deriving DecidableEq

namespace LogRecord

/-! ## 1. For machines -/

/-- The attributes that are written, in order. -/
def writtenAttributes : List String := ["event", "node_id", "code", "latency_ms"]

/-- A value without colours. -/
def colourless : Value → Value
  | .text t => .text t.withoutColours
  | v => v

/-- The attributes of a record that are written, those that are null left out. -/
def shownAttributes (r : LogRecord) : List (Text × Value) :=
  writtenAttributes.filterMap fun name =>
    match r.attributeValue name with
    | .null => none
    | v => some (Text.ofString name, colourless v)

/-- The fields of a record as it is written for machines: time, level, channel and message, then the
run, then attributes and exception. -/
def fields (time : Text) (trace : Trace) (r : LogRecord) : OrderedMap Text Value :=
  let base : Trace :=
    Trace.merge OrderedMap.empty
      [("timestamp", .text time), ("level", .text r.levelWord.toLower),
       ("logger", .text r.channel), ("message", .text r.message.withoutColours)]
  let exception : List (Text × Value) :=
    match r.exception with
    | some t => [("exception", .text t.withoutColours)]
    | none => []
  Trace.merge (Trace.merge (Trace.merge base trace.entries) r.shownAttributes) exception

/-- The record as a JSON mapping on one line. -/
def structuredLine (time : Text) (trace : Trace) (r : LogRecord) : Text :=
  Json.write .line (.mapping ((r.fields time trace).entries.map fun e => (.text e.1, e.2)))

/-! ## 2. For people -/

/-- The levels that have a colour. -/
def colours : List (String × String) :=
  [("DEBUG", "\x1b[36m"), ("INFO", "\x1b[32m"), ("WARNING", "\x1b[33m"), ("ERROR", "\x1b[31m"),
   ("CRITICAL", "\x1b[35m")]

/-- The colour of a level, if it has one. -/
def colour (word : Text) : Text :=
  match colours.find? fun c => Text.ofString c.1 = word with
  | some c => c.2
  | none => Text.empty

/-- The mark that ends a colour. -/
def plainMark : Text := "\x1b[0m"

/-- Text filled up with spaces to a width. -/
def padded (width : Nat) (t : Text) : Text :=
  t ++ ⟨List.replicate (width - t.length) (CodePoint.ofChar ' ')⟩

/-- How much of the id of a run is shown. -/
def shownIdLength : Nat := 8

/-- The beginning of the id of a run. -/
def shortId : Value → Except Fault Text
  | .text t => .ok (t.take shownIdLength)
  | .list items => .ok (Value.list (items.take shownIdLength)).display
  | .tuple items => .ok (Value.tuple (items.take shownIdLength)).display
  | v => .error (.notText v.kindWord)

/-- The run as it is shown in front of a message. -/
def runPrefix (trace : Trace) : Except Fault Text := do
  let id := trace.get "validation_id"
  let run ← if id.truthy then (fun t => [Text.ofString "run:" ++ t]) <$> shortId id else pure []
  let token :=
    match trace.get "run_token" with
    | .null => []
    | v => [Text.ofString "token:" ++ v.display]
  match run ++ token with
  | [] => return Text.empty
  | parts => return "[" ++ Text.join " | " parts ++ "] "

/-- The event of a record as it is shown behind the message. -/
def eventSuffix (r : LogRecord) : Text :=
  match r.attributeValue "event" with
  | .null => Text.empty
  | v => " [" ++ v.display ++ "]"

/-- The record as a coloured line. -/
def humanLine (trace : Trace) (r : LogRecord) : Except Fault Text := do
  let run ← runPrefix trace
  return colour r.levelWord ++ "[" ++ padded 8 r.levelWord ++ "]" ++ plainMark ++ " " ++ run ++
    r.message ++ r.eventSuffix ++
    (match r.exception with
      | some t => "\n" ++ t
      | none => Text.empty)

/-- The record in a style. -/
def write (style : LogStyle) (time : Text) (trace : Trace) (r : LogRecord) : Except Fault Text :=
  match style with
  | .structured => .ok (r.structuredLine time trace)
  | .human => r.humanLine trace

end LogRecord

end WorkflowGate
