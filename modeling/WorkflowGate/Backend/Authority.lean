/-
# Asking a back end

One request carries a snapshot to a back end under its address, within a time limit.  Asking has
two halves, so that something may happen in between: `Authority.prepare` makes the request, or finds
that there is no time for one, and `Authority.conclude` turns what comes back into an outcome.

A limit that is not positive is over before anything is sent; null is no limit.

* `ask_of_no_time`: without time nothing is sent;
* `status_of_concludeAnswer`: an answer that is an error is rejected whatever its body.
-/
import WorkflowGate.Backend.Outcome
import WorkflowGate.Backend.Reply
import WorkflowGate.Backend.Request
import WorkflowGate.Url.Basic

namespace WorkflowGate

/-! ## 1. What goes over the wire -/

/-- A request to a back end. -/
structure HttpRequest where
  method : Text
  url : Url
  headers : List (Text × Text)
  body : Value

/-- The values of a header, whose name is read without regard to case. -/
def HttpRequest.header? (r : HttpRequest) (name : Text) : Option Text :=
  match (r.headers.filter fun h => h.1.toAsciiLower = name.toAsciiLower).map Prod.snd with
  | [] => none
  | values => some (Text.join ", " values)

/-- Why waiting for a back end was given up. -/
inductive WaitFault
  | reading
  | connecting
  | limit
deriving DecidableEq

/-- The word for it in the log. -/
def WaitFault.word : WaitFault → String
  | reading => "ReadTimeout"
  | connecting => "ConnectTimeout"
  | limit => "TimeoutError"

/-- Why a request did not get through. -/
inductive TransportFault
  | connection
  | protocol
deriving DecidableEq

/-- The word for it in the log. -/
def TransportFault.word : TransportFault → String
  | connection => "ConnectError"
  | protocol => "RemoteProtocolError"

/-- What comes back for a request. -/
inductive Delivery
  /-- An answer with a status and a body. -/
  | answer (status : Int) (body : List UInt8)
  /-- Nothing, ever. -/
  | silence
  /-- The transport gave up waiting. -/
  | late (fault : WaitFault)
  /-- The transport failed. -/
  | failure (fault : TransportFault) (message : Text)
  /-- The operating system refused. -/
  | refusal (message : Text)

/-- What carries requests: what it brings back, and after how many milliseconds. -/
structure Transport where
  deliver : HttpRequest → Delivery
  elapsed : Nat := 0

/-! ## 2. A back end -/

/-- A back end: its address, how long it may take, and the headers that it wants. -/
structure Authority where
  baseUrl : Value
  timeout : Value := .float (.ofRatio false 10 1)
  headers : Value := .null

/-- The way from asking a question to its end. -/
structure Exchange where
  result : Except Fault Outcome
  sent : List HttpRequest := []
  log : List LogRecord := []

/-- The end of an exchange in which the given requests were sent. -/
def Exchange.ofEnd (sent : List HttpRequest) : Except Fault (Outcome × LogRecord) → Exchange
  | .ok (outcome, entry) => ⟨.ok outcome, sent, [entry]⟩
  | .error f => ⟨.error f, sent, []⟩

/-- The requests of an exchange are those that were sent when it ended. -/
@[simp] theorem Exchange.sent_ofEnd (sent : List HttpRequest)
    (x : Except Fault (Outcome × LogRecord)) : (Exchange.ofEnd sent x).sent = sent := by
  cases x <;> rfl

/-- What comes of it is the outcome with which it ended. -/
theorem Exchange.result_ofEnd (sent : List HttpRequest) (x : Except Fault (Outcome × LogRecord)) :
    (Exchange.ofEnd sent x).result = Prod.fst <$> x := by
  cases x <;> rfl

namespace Authority

/-- The place below the address to which questions go. -/
def place : Text := "api/compile/validate"

/-- Is there any time to wait? -/
def hasTime : Value → Except Fault Bool
  | .null => .ok true
  | .int i =>
    if i ≤ 0 then .ok false
    else if (Binary64.ofInt? i).isSome then .ok true
    else .error .numberTooLarge
  | .float x => .ok !(x.le .zero)
  | .bool b => .ok b
  | v => .error (.incomparable v.kindWord)

/-- A name or value of a header, which must be ASCII text; the fault of another value is given. -/
def headerText (fault : Fault) : Value → Except Fault Text
  | .text t => if t.isAscii then .ok t else .error .unencodable
  | _ => .error fault

/-- A header, its name checked before its value. -/
def readHeader (name value : Value) : Except Fault (Text × Text) := do
  return (← headerText .nameExpected name, ← headerText (.notText value.kindWord) value)

/-- A header that is given as a pair, as two members of whatever one can go through. -/
def readHeaderPair (v : Value) : Except Fault (Text × Text) :=
  match v.iterated? with
  | some [name, value] => readHeader name value
  | some (_ :: _ :: _) => .error (.notAPair "too many values to unpack (expected 2)")
  | some few =>
    .error (.notAPair ("not enough values to unpack (expected 2, got " ++ Text.ofNat few.length ++ ")"))
  | none => .error (.notIterable v.kindWord)

/-- The headers: a mapping, or pairs of a name and a value. -/
def readHeaders (v : Value) : Except Fault (List (Text × Text)) :=
  if !v.truthy then .ok []
  else
    match v, v.iterated? with
    | .mapping es, _ => es.mapM fun e => readHeader (Value.ofKey e.1) e.2
    | _, some items => items.mapM readHeaderPair
    | _, none => .error (.notIterable v.kindWord)

/-- The address of a back end. -/
def readAddress : Value → Except Fault Url
  | .text t => Url.read t
  | v => .error (.notText v.kindWord)

/-- The request that carries a body to the back end. -/
def requestFor (a : Authority) (body : Value) : Except Fault HttpRequest := do
  let address ← readAddress a.baseUrl
  let headers ← readHeaders a.headers
  let url ← address.below place
  body.checkSendable
  match Url.hostProblem? url.host with
  | some problem => throw (.unreadableHost problem)
  | none => return ⟨"POST", url, headers, body.portable⟩

/-- The request about a snapshot, or nothing when there is no time for one. -/
def prepare (a : Authority) (s : Snapshot) (flags : CheckFlags) :
    Except Fault (Option HttpRequest) := do
  let body ← s.request flags
  if ← hasTime a.timeout then some <$> a.requestFor body else return none

/-! ## 3. Ends -/

/-- What a record about the back end carries besides its message. -/
def recordAttributes (elapsed : Nat) : List (String × Value) :=
  [("event", .text "backend_validation"), ("latency_ms", .int elapsed)]

/-- A failure with its record; the cause is named where there is one. -/
def fail (elapsed : Nat) (status : OutcomeStatus) (detail : Text) (cause : Option String) :
    Outcome × LogRecord :=
  ({ status := status, detail := detail },
   .of .backend .warning
    ("Backend validation unavailable (" ++ Text.ofString status.name ++ "): " ++ detail ++
      (match cause with
        | some word => " [" ++ Text.ofString word ++ Text.ofString "]"
        | none => Text.empty))
    (recordAttributes elapsed))

/-- A success with its record. -/
def succeed (elapsed : Nat) (findings : List Finding) : Outcome × LogRecord :=
  ({ status := .success, reported := findings },
   .of .backend .debug
    ("Backend validation returned " ++ Text.ofNat findings.length ++ " findings")
    (recordAttributes elapsed))

/-- The time limit in words; an integer with too many digits has none. -/
def writeLimit : Value → Except Fault Text
  | .int i => writeInteger i
  | v => .ok v.display

/-- The time is over. -/
def timedOut (a : Authority) (elapsed : Nat) (fault : WaitFault) :
    Except Fault (Outcome × LogRecord) := do
  let limit ← writeLimit a.timeout
  return fail elapsed .timeout ("timed out after " ++ limit ++ "s") fault.word

/-- Is an answer with this status an error? -/
def isErrorStatus (status : Int) : Bool := 400 ≤ status && status ≤ 599

/-- What an answer comes to. -/
def concludeAnswer [Room] (elapsed : Nat) (status : Int) (body : List UInt8) :
    Except Fault (Outcome × LogRecord) :=
  if isErrorStatus status then .ok (fail elapsed .rejected ("HTTP " ++ Text.ofInt status) none)
  else do
    match ← BackendReply.ofBytes body with
    | .ok reply => return succeed elapsed reply.findings
    | .error problem => return fail elapsed .rejected "unreadable response body" problem.word

/-- What comes back for a request, as an outcome.  An answer from an address without a scheme is a
fault. -/
def conclude [Room] (a : Authority) (elapsed : Nat) (r : HttpRequest) :
    Delivery → Except Fault (Outcome × LogRecord)
  | .answer status body =>
    if r.url.scheme.isEmpty then .error (.unknownAddressKind r.url.toText)
    else concludeAnswer elapsed status body
  | .silence => a.timedOut elapsed .limit
  | .late fault => a.timedOut elapsed fault
  | .failure fault message => .ok (fail elapsed .transportError message (some fault.word))
  | .refusal message => .error (.system message)

/-- The exchange about something prepared. -/
def exchange [Room] (a : Authority) (t : Transport) : Except Fault (Option HttpRequest) → Exchange
  | .error f => ⟨.error f, [], []⟩
  | .ok none => .ofEnd [] (a.timedOut t.elapsed .limit)
  | .ok (some r) => .ofEnd [r] (a.conclude t.elapsed r (t.deliver r))

/-- Asks a back end about a snapshot. -/
def ask [Room] (a : Authority) (s : Snapshot) (flags : CheckFlags) (t : Transport) : Exchange :=
  a.exchange t (a.prepare s flags)

/-- Without time nothing is sent. -/
theorem ask_of_no_time {a : Authority} (h : hasTime a.timeout = .ok false) (s : Snapshot)
    (flags : CheckFlags) (t : Transport) : (a.ask s flags t).sent = [] := by
  cases hr : s.request flags <;>
    simp [ask, prepare, h, hr, bind, Except.bind, pure, Except.pure, exchange]

/-- An answer that is an error is rejected whatever its body. -/
theorem status_of_concludeAnswer {status : Int} (h : isErrorStatus status = true) (elapsed : Nat)
    (body : List UInt8) :
    (fun ended => ended.1.status) <$> concludeAnswer elapsed status body = .ok .rejected := by
  simp only [concludeAnswer, h, if_true]
  rfl

end Authority

end WorkflowGate
