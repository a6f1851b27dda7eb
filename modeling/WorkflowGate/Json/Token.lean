/-
# The tokens of a JSON text

A text is cut into tokens, each with the offset at which it starts.  Where no token can be read, the
rest of the text is one broken token that carries the reason; the reader reports that reason only
where a value or a name could have stood, so the first error of a text is the one that its reader
meets first.

* `tokensFrom_length_pos`: the list always ends with a token for the end or for a break.
-/
import WorkflowGate.Number.Numeral

namespace WorkflowGate.Json

/-! ## 1. What can be wrong -/

/-- A way in which a text can fail to be JSON. -/
inductive SyntaxError
  | expectingValue
  | expectingName
  | expectingColon
  | expectingComma
  | extraData
  | unterminatedString
  | controlCharacter
  | badEscape
  | badUnicodeEscape
  | byteOrderMark
deriving DecidableEq

namespace SyntaxError

/-- The wording of an error. -/
def wording : SyntaxError → String
  | expectingValue => "Expecting value"
  | expectingName => "Expecting property name enclosed in double quotes"
  | expectingColon => "Expecting ':' delimiter"
  | expectingComma => "Expecting ',' delimiter"
  | extraData => "Extra data"
  | unterminatedString => "Unterminated string starting at"
  | controlCharacter => "Invalid control character at"
  | badEscape => "Invalid \\escape"
  | badUnicodeEscape => "Invalid \\uXXXX escape"
  | byteOrderMark => "Unexpected UTF-8 BOM (decode using utf-8-sig)"

end SyntaxError

/-- A break in a text: an error at an offset, an integer with more digits than are allowed, or lists
and mappings within each other deeper than is allowed. -/
inductive Break
  | error (reason : SyntaxError) (offset : Nat)
  | integerTooLong (digits : Nat)
  | nestedTooDeep
deriving DecidableEq

/-- What a token is. -/
inductive TokenKind
  | openList
  | closeList
  | openMapping
  | closeMapping
  | comma
  | colon
  | string (t : Text)
  | null
  | bool (b : Bool)
  | int (i : Int)
  | float (x : Binary64)
  | broken (why : Break)
  | brokenString (why : Break)
  | ending

/-- A token and the offset at which it starts. -/
structure Token where
  offset : Nat
  kind : TokenKind

/-! ## 2. Strings -/

/-- The code point that a letter after a backslash stands for. -/
def escaped? (p : CodePoint) : Option CodePoint :=
  [('"', '"'), ('\\', '\\'), ('/', '/'), ('b', '\x08'), ('f', '\x0c'), ('n', '\n'), ('r', '\r'),
    ('t', '\t')].findSome? fun (letter, meaning) =>
      if p = CodePoint.ofChar letter then some (CodePoint.ofChar meaning) else none

/-- The number written by four hexadecimal digits. -/
def fourHex? (a b c d : CodePoint) : Option Nat := do
  let a ← a.hexValue?
  let b ← b.hexValue?
  let c ← c.hexValue?
  let d ← d.hexValue?
  return ((a * 16 + b) * 16 + c) * 16 + d

/-- Puts the code unit of an escape in front of what has been read, last first.  A low surrogate
right after the high one of an escape joins it; `pending` is that high one. -/
def pushUnit (pending : Option Nat) (unit : Nat) (done : List CodePoint) : List CodePoint :=
  match pending with
  | some high =>
    if 0xDC00 ≤ unit ∧ unit ≤ 0xDFFF then
      CodePoint.ofNat (0x10000 + (high - 0xD800) * 0x400 + (unit - 0xDC00)) :: done.drop 1
    else CodePoint.ofNat unit :: done
  | none => CodePoint.ofNat unit :: done

/-- Reads the body of a string up to its closing quote.  `start` is the offset of the opening quote,
`offset` that of the next code point.  The result is what was read and the offset after the closing
quote. -/
def readString (start : Nat) : (offset : Nat) → (pending : Option Nat) → (done : List CodePoint) →
    List CodePoint → Except Break (List CodePoint × Nat)
  | _, _, _, [] => .error (.error .unterminatedString start)
  | offset, pending, done, p :: rest =>
    if p = ('"' : Char) then .ok (done.reverse, offset + 1)
    else if p.val < 0x20 then .error (.error .controlCharacter offset)
    else if p = ('\\' : Char) then
      match rest with
      | [] => .error (.error .unterminatedString start)
      | letter :: rest =>
        if letter = ('u' : Char) then
          match rest with
          | a :: b :: c :: d :: next :: rest =>
            match fourHex? a b c d with
            | some unit =>
              let high := if 0xD800 ≤ unit ∧ unit ≤ 0xDBFF then some unit else none
              readString start (offset + 6) high (pushUnit pending unit done) (next :: rest)
            | none => .error (.error .badUnicodeEscape (offset + 1))
          | _ => .error (.error .badUnicodeEscape (offset + 1))
        else
          match escaped? letter with
          | some q => readString start (offset + 2) none (q :: done) rest
          | none => .error (.error .badEscape offset)
    else readString start (offset + 1) none (p :: done) rest

/-! ## 3. Words and numbers -/

/-- The words that stand for a value. -/
def words : List (String × TokenKind) :=
  [("null", .null), ("true", .bool true), ("false", .bool false), ("NaN", .float .nan),
   ("Infinity", .float (.infinite false)), ("-Infinity", .float (.infinite true))]

/-- The word at the start of the text and its length. -/
def readWord? (ps : List CodePoint) : Option (TokenKind × Nat) :=
  words.findSome? fun (word, kind) =>
    if (Text.ofString word).points.isPrefixOf ps then some (kind, word.length) else none

/-- A point with at least one digit after it: those digits, and how many code points that is. -/
def readFraction : List CodePoint → List CodePoint × Nat
  | [] => ([], 0)
  | p :: rest =>
    let ds := rest.takeWhile CodePoint.isAsciiDigit
    if p = ('.' : Char) ∧ ¬ ds.isEmpty then (ds, ds.length + 1) else ([], 0)

/-- An exponent with at least one digit: its value, and how many code points that is. -/
def readExponent : List CodePoint → Option (Int × Nat)
  | [] => none
  | p :: rest =>
    if p = ('e' : Char) ∨ p = ('E' : Char) then
      let (negative, body) := Numeral.splitSign rest
      let ds := body.takeWhile CodePoint.isAsciiDigit
      if ds.isEmpty then none
      else
        let value : Int := Numeral.digitsValue ds
        some (if negative then -value else value, 1 + (rest.length - body.length) + ds.length)
    else none

/-- The number at the start of the text and its length.  Without a point and an exponent it is an
integer. -/
def readNumber? (ps : List CodePoint) : Option (TokenKind × Nat) :=
  let negative := (Text.ofString "-").points.isPrefixOf ps
  let body := if negative then ps.drop 1 else ps
  let signLength := if negative then 1 else 0
  let ds := body.takeWhile CodePoint.isAsciiDigit
  let whole := if ds.head? = some ('0' : Char) then ds.take 1 else ds
  if whole.isEmpty then none
  else
    let rest := body.drop whole.length
    let (fraction, fractionLength) := readFraction rest
    let exponent := readExponent (rest.drop fractionLength)
    let length := signLength + whole.length + fractionLength
    match exponent with
    | some (e, exponentLength) =>
      let x := Numeral.roundDecimal negative (whole ++ fraction) (e - fraction.length)
      some (.float x, length + exponentLength)
    | none =>
      if fractionLength = 0 then
        if whole.length > Numeral.digitLimit then
          some (.broken (.integerTooLong whole.length), length)
        else
          let n : Int := Numeral.digitsValue whole
          some (.int (if negative then -n else n), length)
      else
        some (.float (Numeral.roundDecimal negative (whole ++ fraction) (-fraction.length)), length)

/-! ## 4. The whole text -/

/-- White space between tokens. -/
def isSpace (p : CodePoint) : Bool := p.val = 0x20 || p.val = 0x09 || p.val = 0x0A || p.val = 0x0D

/-- Tokens of a single code point. -/
def mark? (p : CodePoint) : Option TokenKind :=
  if p = ('[' : Char) then some .openList
  else if p = (']' : Char) then some .closeList
  else if p = ('\x7b' : Char) then some .openMapping
  else if p = ('\x7d' : Char) then some .closeMapping
  else if p = (',' : Char) then some .comma
  else if p = (':' : Char) then some .colon
  else none

/-- The tokens of a text that starts at an offset. -/
def tokensFrom (offset : Nat) (ps : List CodePoint) : List Token :=
  match ps with
  | [] => [⟨offset, .ending⟩]
  | p :: rest =>
    if isSpace p then tokensFrom (offset + 1) rest
    else
      match mark? p with
      | some kind => ⟨offset, kind⟩ :: tokensFrom (offset + 1) rest
      | none =>
        if p = ('"' : Char) then
          match readString offset (offset + 1) none [] rest with
          | .error why => [⟨offset, .brokenString why⟩]
          | .ok (points, after) =>
            ⟨offset, .string ⟨points⟩⟩ :: tokensFrom after (rest.drop (after - offset - 1))
        else
          match (readWord? (p :: rest)).or (readNumber? (p :: rest)) with
          | some (kind, length) =>
            ⟨offset, kind⟩ :: tokensFrom (offset + length) (rest.drop (length - 1))
          | none => [⟨offset, .broken (.error .expectingValue offset)⟩]
termination_by ps.length
decreasing_by all_goals simp +arith [List.length_drop]

/-- The tokens of a text. -/
def tokens (t : Text) : List Token := tokensFrom 0 t.points

/-- Every text has at least one token. -/
theorem tokensFrom_length_pos (offset : Nat) (ps : List CodePoint) :
    0 < (tokensFrom offset ps).length := by
  fun_induction tokensFrom offset ps <;> simp_all

end WorkflowGate.Json
