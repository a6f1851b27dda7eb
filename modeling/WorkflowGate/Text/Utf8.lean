/-
# UTF-8

Decoding bytes one code point at a time (`decodePoint`).  A sequence that is cut off by the end of
the bytes and one that is cut off by a byte of another kind are told apart, and the fault says which
bytes are concerned.  Half of a surrogate pair is no UTF-8; a lenient reader may let it pass.
-/
import WorkflowGate.Text.Basic

namespace WorkflowGate.Utf8

/-- What the bytes begin with. -/
inductive Piece
  | point (p : CodePoint) (length : Nat)
  | badStart
  | badContinuation (sound : Nat)
  | cutOff
deriving DecidableEq

/-- Why bytes are not UTF-8: the concerned bytes are those from `start` up to, not including,
`stop`. -/
structure Fault where
  reason : String
  first : UInt8
  start : Nat
  stop : Nat
deriving DecidableEq

/-- The wording of a fault. -/
def Fault.message (f : Fault) : Text :=
  let lead := Text.ofString "'utf-8' codec can't decode "
  let concerned :=
    if f.stop - f.start = 1 then
      let digits := Nat.toDigits 16 f.first.toNat
      Text.ofString "byte 0x" ++
        Text.ofString (String.ofList (List.replicate (2 - digits.length) '0' ++ digits)) ++
        Text.ofString " in position " ++ Text.ofNat f.start
    else
      Text.ofString "bytes in position " ++ Text.ofNat f.start ++ Text.ofString "-" ++
        Text.ofNat (f.stop - 1)
  lead ++ concerned ++ Text.ofString ": " ++ Text.ofString f.reason

/-- A byte of the form `10xxxxxx`. -/
def isContinuation (b : UInt8) : Bool := 0x80 ≤ b && b ≤ 0xBF

/-- May the byte follow the first one?  The ranges keep out overlong forms, surrogates and numbers
beyond the last code point. -/
def isSecond (surrogatesPass : Bool) (first second : UInt8) : Bool :=
  isContinuation second &&
    (if first = 0xE0 then 0xA0 ≤ second
     else if first = 0xED then surrogatesPass || second < 0xA0
     else if first = 0xF0 then 0x90 ≤ second
     else if first = 0xF4 then second < 0x90
     else true)

/-- How many bytes a sequence has that starts with the byte; none if no sequence does. -/
def sequenceLength? (first : UInt8) : Option Nat :=
  if first < 0x80 then some 1
  else if first < 0xC2 then none
  else if first < 0xE0 then some 2
  else if first < 0xF0 then some 3
  else if first < 0xF5 then some 4
  else none

/-- The payload of a continuation byte. -/
def low6 (b : UInt8) : Nat := b.toNat % 64

/-- The code point at the start of the bytes, or what is wrong there. -/
def decodePoint (surrogatesPass : Bool) (first : UInt8) (rest : List UInt8) : Piece :=
  match sequenceLength? first, rest with
  | none, _ => .badStart
  | some 1, _ => .point (CodePoint.ofNat first.toNat) 1
  | some _, [] => .cutOff
  | some n, b :: rest =>
    if !isSecond surrogatesPass first b then .badContinuation 1
    else if n = 2 then .point (CodePoint.ofNat (first.toNat % 32 * 64 + low6 b)) 2
    else
      match rest with
      | [] => .cutOff
      | c :: rest =>
        if !isContinuation c then .badContinuation 2
        else if n = 3 then
          .point (CodePoint.ofNat ((first.toNat % 16 * 64 + low6 b) * 64 + low6 c)) 3
        else
          match rest with
          | [] => .cutOff
          | d :: _ =>
            if !isContinuation d then .badContinuation 3
            else
              .point (CodePoint.ofNat
                (((first.toNat % 8 * 64 + low6 b) * 64 + low6 c) * 64 + low6 d)) 4

/-- Decodes bytes that start at an offset; `done` is what has been decoded, last first. -/
def decodeFrom (surrogatesPass : Bool) (offset : Nat) (done : List CodePoint) (bytes : List UInt8) :
    Except Fault Text :=
  match bytes with
  | [] => .ok ⟨done.reverse⟩
  | b :: rest =>
    match decodePoint surrogatesPass b rest with
    | .point p length =>
      decodeFrom surrogatesPass (offset + length) (p :: done) (rest.drop (length - 1))
    | .badStart => .error ⟨"invalid start byte", b, offset, offset + 1⟩
    | .badContinuation sound => .error ⟨"invalid continuation byte", b, offset, offset + sound⟩
    | .cutOff => .error ⟨"unexpected end of data", b, offset, offset + (rest.length + 1)⟩
termination_by bytes.length
decreasing_by simp +arith [List.length_drop]

/-- Decodes bytes. -/
def decode (bytes : List UInt8) : Except Fault Text := decodeFrom false 0 [] bytes

/-- The byte order mark. -/
def byteOrderMark : List UInt8 := [0xEF, 0xBB, 0xBF]

/-- Decodes a file: a byte order mark at the start is dropped, and so is a beginning of one that is
the whole file. -/
def decodeFile (bytes : List UInt8) : Except Fault Text :=
  if bytes.length < 3 ∧ bytes.isPrefixOf byteOrderMark then .ok Text.empty
  else if byteOrderMark.isPrefixOf bytes then decode (bytes.drop 3)
  else decode bytes

/-- The bytes of a code point. -/
def encodePoint (p : CodePoint) : List UInt8 :=
  let n := p.val
  let tail (m : Nat) : UInt8 := UInt8.ofNat (0x80 + m % 64)
  if n < 0x80 then [UInt8.ofNat n]
  else if n < 0x800 then [UInt8.ofNat (0xC0 + n / 64), tail n]
  else if n < 0x10000 then [UInt8.ofNat (0xE0 + n / 4096), tail (n / 64), tail n]
  else [UInt8.ofNat (0xF0 + n / 262144), tail (n / 4096), tail (n / 64), tail n]

/-- The bytes of a text; a surrogate half has none. -/
def encode? (t : Text) : Option (List UInt8) :=
  if t.hasSurrogate then none else some (t.points.flatMap encodePoint)

end WorkflowGate.Utf8

namespace WorkflowGate.Text

/-- Line ends of every kind become line feeds: a carriage return with or without a line feed after
it counts as one. -/
def unifyLineEnds (t : Text) : Text := ⟨go t.points []⟩
where
  /-- The remaining code points, behind those already taken over, last first. -/
  go : List CodePoint → List CodePoint → List CodePoint
    | [], done => done.reverse
    | [p], done => (if p.val = 0x0D then CodePoint.ofNat 0x0A :: done else p :: done).reverse
    | p :: q :: rest, done =>
      if p.val = 0x0D then
        if q.val = 0x0A then go rest (q :: done)
        else go (q :: rest) (CodePoint.ofNat 0x0A :: done)
      else go (q :: rest) (p :: done)

end WorkflowGate.Text
