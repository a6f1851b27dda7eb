/-
# What a back end answers

The body of an answer is JSON in one of the Unicode encodings: a mapping with three lists of
entries.  The list in which an entry stands decides its severity, whatever the entry says.  A code
that the vocabulary does not know is reported under one code for all of them, the unknown word in
front of the message.

* `length_findings`: one finding for each entry;
* `message_ne_empty`: a finding of a back end always has a message.
-/
import WorkflowGate.Fault
import WorkflowGate.Finding.Basic
import WorkflowGate.Room
import WorkflowGate.Text.Encoding

namespace WorkflowGate

/-! ## 1. Entries -/

/-- One entry of an answer. -/
abbrev ReplyEntry := List (Text × Value)

namespace ReplyEntry

/-- The value of a key as text; empty when the key is absent. -/
def textOf (e : ReplyEntry) (name : Text) : Text :=
  ((OrderedMap.lookup name e).map Value.display).getD Text.empty

/-- The text of a value that is not null. -/
def locatorOf : Value → Option Text
  | .null => none
  | v => some v.display

/-- A locator under the first of two names that is present; null there means none. -/
def locator (e : ReplyEntry) (name other : Text) : Option Text :=
  match OrderedMap.lookup name e with
  | some v => locatorOf v
  | none => (OrderedMap.lookup other e).bind locatorOf

/-- The message, or a fixed one when that is empty. -/
def message (e : ReplyEntry) : Text :=
  let given := e.textOf "message"
  if given.isEmpty then "Reported by backend validation" else given

/-- The word in front of the message of an unknown code. -/
def codeWord (e : ReplyEntry) : Text :=
  let given := e.textOf "code"
  if given.isEmpty then "UNKNOWN" else given

/-- The finding that an entry reports. -/
def finding (severity : Severity) (e : ReplyEntry) : Finding :=
  let nodeId := e.locator "node_id" "nodeId"
  let fieldId := e.locator "field" "field_id"
  match Code.ofName? (e.textOf "code") with
  | some code => ⟨severity, code, e.message, nodeId, fieldId⟩
  | none =>
    ⟨severity, .remoteFinding, "[" ++ e.codeWord ++ "] " ++ e.message, nodeId, fieldId⟩

/-- The list in which an entry stands decides its severity. -/
@[simp] theorem severity_finding (severity : Severity) (e : ReplyEntry) :
    (e.finding severity).severity = severity := by
  unfold finding
  split <;> rfl

/-- A message is never empty. -/
theorem message_ne_empty (e : ReplyEntry) : e.message.isEmpty = false := by
  unfold message
  by_cases h : (e.textOf "message").isEmpty = true
  · simp only [h, if_true]
    decide
  · simp only [h]
    exact Bool.eq_false_iff.mpr h

end ReplyEntry

/-! ## 2. Answers -/

/-- An answer of a back end. -/
structure BackendReply where
  isValid : Option Bool
  errors : List ReplyEntry
  warnings : List ReplyEntry
  infos : List ReplyEntry

namespace BackendReply

/-- Reads an answer from the entries of a mapping. -/
def ofEntries (es : Entries) : Shaped BackendReply :=
  BackendReply.mk <$> es.optional ["is_valid"] none (readOptional readTruth)
    <*> es.optional ["errors"] [] (readList readTextMapping)
    <*> es.optional ["warnings"] [] (readList readTextMapping)
    <*> es.optional ["info"] [] (readList readTextMapping)

/-- The name of the model in messages. -/
def modelName : String := "RemoteResponse"

/-- Reads an answer. -/
def read (v : Value) : Shaped BackendReply := readModel ofEntries v

/-- What an answer reports: errors, then warnings, then infos. -/
def findings (r : BackendReply) : List Finding :=
  r.errors.map (ReplyEntry.finding .error) ++ r.warnings.map (ReplyEntry.finding .warning) ++
    r.infos.map (ReplyEntry.finding .info)

/-- One finding for each entry. -/
theorem length_findings (r : BackendReply) :
    r.findings.length = r.errors.length + r.warnings.length + r.infos.length := by
  simp [findings, Nat.add_assoc]

end BackendReply

/-! ## 3. Bodies -/

/-- Why a body is no answer. -/
inductive UnreadableBody
  /-- It is no text in its encoding. -/
  | undecodable
  /-- Its text is not JSON. -/
  | notJson
  /-- Its text holds an integer with too many digits. -/
  | integerTooLong
  /-- It does not have the shape of an answer. -/
  | misshapen

/-- The word for the cause in the log. -/
def UnreadableBody.word : UnreadableBody → String
  | undecodable => "UnicodeDecodeError"
  | notJson => "JSONDecodeError"
  | integerTooLong => "ValueError"
  | misshapen => "ValidationError"

namespace BackendReply

/-- Reads an answer from the bytes of a body.  A body that is no answer is a result like any other;
only one nested too deeply to be read is a fault. -/
def ofBytes [Room] (bytes : List UInt8) : Except Fault (Except UnreadableBody BackendReply) :=
  match Encoding.decodeDetected? bytes with
  | none => .ok (.error .undecodable)
  | some t =>
    match Json.read Room.answer t with
    | .error (.malformed _ _) => .ok (.error .notJson)
    | .error (.integerTooLong _) => .ok (.error .integerTooLong)
    | .error .nestedTooDeep => .error (.notJson .nestedTooDeep)
    | .ok v =>
      match read v with
      | .good r => .ok (.ok r)
      | .bad _ => .ok (.error .misshapen)

end BackendReply

end WorkflowGate
