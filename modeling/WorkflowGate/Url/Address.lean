/-
# Numeric addresses

Addresses of version 4, four decimal numbers, and of version 6, eight hexadecimal ones of which a
run of zeros may be left out, with an optional zone behind a percent sign.
-/
import WorkflowGate.Text.Basic

namespace WorkflowGate.Address

/-! ## 1. Version 4 -/

/-- One of the four numbers: at most three digits, no zero in front, at most 255. -/
def isOctet (t : Text) : Bool :=
  let ps := t.points
  let value := ps.foldl (fun n p => n * 10 + (p.val - 0x30)) 0
  !ps.isEmpty && ps.all CodePoint.isAsciiDigit && ps.length ≤ 3 &&
    (ps.length = 1 || ps.head? ≠ some ('0' : Char)) && value ≤ 255

/-- An address of version 4. -/
def isVersion4 (t : Text) : Bool :=
  let octets := t.splitOn ('.' : Char)
  octets.length = 4 && octets.all isOctet

/-- Does the text look like an address of version 4: four rows of digits with points between? -/
def isDottedStyle (t : Text) : Bool :=
  let rows := t.splitOn ('.' : Char)
  rows.length = 4 && rows.all fun row => !row.isEmpty && row.points.all CodePoint.isAsciiDigit

/-! ## 2. Version 6 -/

/-- One of the eight numbers: one to four hexadecimal digits. -/
def isHextet (t : Text) : Bool :=
  !t.isEmpty && t.length ≤ 4 && t.points.all fun p => p.hexValue?.isSome

/-- The address without its zone; none if the zone is empty or holds another percent sign. -/
def withoutZone? (t : Text) : Option Text :=
  match t.cutAt ('%' : Char) with
  | (address, none) => some address
  | (address, some zone) => if zone.isEmpty || zone.contains "%" then none else some address

/-- Replaces an address of version 4 at the end by two numbers; none if it is no such address. -/
def expandTail? (parts : List Text) : Option (List Text) :=
  match parts.getLast? with
  | none => some parts
  | some last =>
    if last.contains "." then
      if isVersion4 last then some (parts.dropLast ++ [Text.ofString "0", Text.ofString "0"]) else none
    else some parts

/-- The numbers around the one gap, none where a gap at an end leaves nothing.  The parts before and
after the gap are empty at the ends of the address only if the gap is there. -/
def sidesOfGap (parts : List Text) : Option (List Text × List Text) :=
  let inner := (parts.drop 1).dropLast
  if (inner.filter Text.isEmpty).length ≠ 1 then none
  else
    let before := parts.take (1 + (inner.takeWhile fun t => !t.isEmpty).length)
    let after := parts.drop (before.length + 1)
    let clean (side : List Text) (outer : Option Text) : Option (List Text) :=
      if outer.any Text.isEmpty then (if side.length = 1 then some [] else none) else some side
    match clean before before.head?, clean after after.getLast? with
    | some before, some after => some (before, after)
    | _, _ => none

/-- An address of version 6. -/
def isVersion6 (t : Text) : Bool :=
  if t.contains "/" then false
  else
    match withoutZone? t with
    | none => false
    | some address =>
      let parts := address.splitOn (':' : Char)
      if parts.length < 3 then false
      else
        match expandTail? parts with
        | none => false
        | some parts =>
          if parts.length > 9 then false
          else if ((parts.drop 1).dropLast).any Text.isEmpty then
            match sidesOfGap parts with
            | none => false
            | some (before, after) =>
              before.length + after.length ≤ 7 && before.all isHextet && after.all isHextet
          else parts.length = 8 && parts.all isHextet

end WorkflowGate.Address
