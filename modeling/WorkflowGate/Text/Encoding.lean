/-
# Bytes of unknown encoding

A JSON body does not name its encoding, but its first bytes betray it: a byte order mark, or the
zero bytes that wide encodings put beside ASCII.  Bytes are then read as UTF-8, UTF-16 or UTF-32 of
either byte order.  Halves of surrogate pairs are let pass in every one of them.
-/
import WorkflowGate.Text.Utf8

namespace WorkflowGate

/-- How text is laid out in bytes. -/
inductive Encoding
  | utf8
  | utf16 (bigEndian : Bool)
  | utf32 (bigEndian : Bool)
deriving DecidableEq

namespace Encoding

/-- The encoding of the bytes, and how many of them are a byte order mark. -/
def detect (bytes : List UInt8) : Encoding × Nat :=
  match bytes with
  | 0x00 :: 0x00 :: 0xFE :: 0xFF :: _ => (utf32 true, 4)
  | 0xFF :: 0xFE :: 0x00 :: 0x00 :: _ => (utf32 false, 4)
  | 0xFE :: 0xFF :: _ => (utf16 true, 2)
  | 0xFF :: 0xFE :: _ => (utf16 false, 2)
  | 0xEF :: 0xBB :: 0xBF :: _ => (utf8, 3)
  | a :: b :: c :: d :: _ =>
    if a = 0 then (if b = 0 then utf32 true else utf16 true, 0)
    else if b = 0 then (if c = 0 ∧ d = 0 then utf32 false else utf16 false, 0)
    else (utf8, 0)
  | [a, b] => (if a = 0 then utf16 true else if b = 0 then utf16 false else utf8, 0)
  | _ => (utf8, 0)

/-- Two bytes as a number. -/
def unit16 (bigEndian : Bool) (a b : UInt8) : Nat :=
  if bigEndian then a.toNat * 256 + b.toNat else b.toNat * 256 + a.toNat

/-- The 16-bit units of the bytes; none if a byte is left over. -/
def units16? (bigEndian : Bool) : List UInt8 → Option (List Nat)
  | [] => some []
  | [_] => none
  | a :: b :: rest => (units16? bigEndian rest).map (unit16 bigEndian a b :: ·)

/-- Joins each high surrogate with the low one after it; any other unit is a code point. -/
def joinUnits : List Nat → List CodePoint
  | [] => []
  | [u] => [CodePoint.ofNat u]
  | u :: v :: rest =>
    if 0xD800 ≤ u ∧ u ≤ 0xDBFF ∧ 0xDC00 ≤ v ∧ v ≤ 0xDFFF then
      CodePoint.ofNat (0x10000 + (u - 0xD800) * 0x400 + (v - 0xDC00)) :: joinUnits rest
    else CodePoint.ofNat u :: joinUnits (v :: rest)

/-- The code points of groups of four bytes; none if bytes are left over or a number is too
large. -/
def points32? (bigEndian : Bool) : List UInt8 → Option (List CodePoint)
  | [] => some []
  | a :: b :: c :: d :: rest =>
    let high := unit16 bigEndian a b
    let low := unit16 bigEndian c d
    let n := if bigEndian then high * 65536 + low else low * 65536 + high
    if h : n < 0x110000 then (points32? bigEndian rest).map (⟨n, h⟩ :: ·) else none
  | _ => none

/-- Reads bytes in an encoding. -/
def decode? (e : Encoding) (bytes : List UInt8) : Option Text :=
  match e with
  | utf8 => (Utf8.decodeFrom true 0 [] bytes).toOption
  | utf16 bigEndian => (units16? bigEndian bytes).map fun us => ⟨joinUnits us⟩
  | utf32 bigEndian => (points32? bigEndian bytes).map fun ps => ⟨ps⟩

/-- Reads bytes in the encoding that they betray. -/
def decodeDetected? (bytes : List UInt8) : Option Text :=
  let (e, mark) := detect bytes
  e.decode? (bytes.drop mark)

end Encoding

end WorkflowGate
