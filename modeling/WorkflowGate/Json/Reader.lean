/-
# Reading JSON

A reader with a stack of open lists and mappings walks the tokens once.  What it needs next decides
which error a token that does not fit gives.  Of equal names in a mapping the last value counts, at
the place of the first.  Lists and mappings may stand within each other up to a limit, which is what the
caller has room for (`Room`).

Errors carry the line, the column and the offset of the code point at fault.
-/
import WorkflowGate.Json.Token
import WorkflowGate.Value

namespace WorkflowGate.Json

/-- Where in a text: line and column counted from one, offset from zero. -/
structure Location where
  line : Nat
  column : Nat
  offset : Nat
deriving DecidableEq

/-- The location of an offset. -/
def locate (t : Text) (offset : Nat) : Location :=
  let before := t.points.take offset
  let newline : CodePoint := ('\n' : Char)
  ⟨before.count newline + 1, (before.reverse.takeWhile (· ≠ newline)).length + 1, offset⟩

/-- Why a text could not be read. -/
inductive ReadFault
  | malformed (reason : SyntaxError) (location : Location)
  | integerTooLong (digits : Nat)
  | nestedTooDeep
deriving DecidableEq

/-- The wording of a fault. -/
def ReadFault.message : ReadFault → Text
  | malformed reason l =>
    reason.wording ++ Text.ofString ": line " ++ Text.ofNat l.line ++ " column " ++
      Text.ofNat l.column ++ " (char " ++ Text.ofNat l.offset ++ ")"
  | integerTooLong digits =>
    "Exceeds the limit (4300 digits) for integer string conversion: value has " ++
      Text.ofNat digits ++ " digits; use sys.set_int_max_str_digits() to increase the limit"
  | nestedTooDeep => Text.empty

/-! ## The machine -/

/-- A list or mapping that has been opened and not closed. -/
inductive Frame
  | list (done : List Value)
  | mapping (done : Entries) (name : Text)

/-- What may come next. -/
inductive Need
  | value
  | valueOrClose
  | name (done : Entries) (orClose : Bool)
  | colon (done : Entries) (name : Text)
  | separator
  | ending (result : Value)

/-- The state of the reader: the open frames, innermost first, and what may come next. -/
structure State where
  stack : List Frame
  need : Need

/-- Opens a list or mapping within others, unless there are as many of them as may be. -/
def State.nested (limit : Nat) (stack : List Frame) (opened : State) : Except Break State :=
  if stack.length < limit then .ok opened else .error .nestedTooDeep

/-- A value has been read: it goes into the innermost frame, or it is the whole. -/
def State.deliver (stack : List Frame) (v : Value) : State :=
  match stack with
  | [] => ⟨[], .ending v⟩
  | .list done :: outer => ⟨.list (v :: done) :: outer, .separator⟩
  | .mapping done name :: outer => ⟨.mapping (done.put (.text name) v) name :: outer, .separator⟩

/-- The next token where a value must stand. -/
def State.onValue (limit : Nat) (stack : List Frame) (t : Token) : Except Break State :=
  match t.kind with
  | .openList => State.nested limit stack ⟨.list [] :: stack, .valueOrClose⟩
  | .openMapping => State.nested limit stack ⟨stack, .name [] true⟩
  | .string s => .ok (State.deliver stack (.text s))
  | .null => .ok (State.deliver stack .null)
  | .bool b => .ok (State.deliver stack (.bool b))
  | .int i => .ok (State.deliver stack (.int i))
  | .float x => .ok (State.deliver stack (.float x))
  | .broken why => .error why
  | .brokenString why => .error why
  | _ => .error (.error .expectingValue t.offset)

/-- One token. -/
def State.step (limit : Nat) (s : State) (t : Token) : Except Break State :=
  match s.need with
  | .value => State.onValue limit s.stack t
  | .valueOrClose =>
    match t.kind, s.stack with
    | .closeList, _ :: outer => .ok (State.deliver outer (.list []))
    | _, _ => State.onValue limit s.stack t
  | .name done orClose =>
    match t.kind with
    | .string name => .ok ⟨s.stack, .colon done name⟩
    | .brokenString why => .error why
    | .closeMapping =>
      if orClose then .ok (State.deliver s.stack (.mapping done))
      else .error (.error .expectingName t.offset)
    | _ => .error (.error .expectingName t.offset)
  | .colon done name =>
    match t.kind with
    | .colon => .ok ⟨.mapping done name :: s.stack, .value⟩
    | _ => .error (.error .expectingColon t.offset)
  | .separator =>
    match t.kind, s.stack with
    | .comma, .list done :: outer => .ok ⟨.list done :: outer, .value⟩
    | .comma, .mapping done _ :: outer => .ok ⟨outer, .name done false⟩
    | .closeList, .list done :: outer => .ok (State.deliver outer (.list done.reverse))
    | .closeMapping, .mapping done _ :: outer => .ok (State.deliver outer (.mapping done))
    | _, _ => .error (.error .expectingComma t.offset)
  | .ending v =>
    match t.kind with
    | .ending => .ok ⟨[], .ending v⟩
    | _ => .error (.error .extraData t.offset)

/-- All tokens one after the other. -/
def State.run (limit : Nat) (s : State) (ts : List Token) : Except Break State :=
  ts.foldlM (State.step limit) s

/-- The value that the tokens spell. -/
def ofTokens (limit : Nat) (ts : List Token) : Except Break Value := do
  match (← State.run limit ⟨[], .value⟩ ts).need with
  | .ending v => return v
  | _ => throw (.error .expectingValue 0)

/-- The value that a text spells, with lists and mappings within each other up to a limit. -/
def read (limit : Nat) (t : Text) : Except ReadFault Value :=
  if t.points.head? = some (CodePoint.ofNat 0xFEFF) then
    .error (.malformed .byteOrderMark (locate t 0))
  else
    match ofTokens limit (tokens t) with
    | .ok v => .ok v
    | .error (.error reason offset) => .error (.malformed reason (locate t offset))
    | .error (.integerTooLong digits) => .error (.integerTooLong digits)
    | .error .nestedTooDeep => .error .nestedTooDeep

end WorkflowGate.Json
