/-
# Text as a sequence of code points

Workflow documents are read from JSON, and a JSON escape may write half of a surrogate pair on
its own.  Such a half is a code point but no character, so text here is a list of code points
rather than a `String`, and nothing that a document holds is lost or replaced.

Each operation is said on the list of points: `points_append`, `isEmpty_iff`, `contains_iff`.
-/

namespace WorkflowGate

/-- A Unicode code point.  The surrogates `0xD800` to `0xDFFF` are among them. -/
abbrev CodePoint := Fin 0x110000

namespace CodePoint

/-- The code point of a character. -/
def ofChar (c : Char) : CodePoint := Fin.ofNat 0x110000 c.toNat

instance : Coe Char CodePoint := ⟨ofChar⟩

/-- Characters end below `0x110000`. -/
theorem toNat_lt (c : Char) : c.toNat < 0x110000 := by
  have h := c.valid
  unfold UInt32.isValidChar Nat.isValidChar at h
  change c.val.toNat < _
  omega

@[simp] theorem ofChar_val (c : Char) : (ofChar c).val = c.toNat :=
  Nat.mod_eq_of_lt (toNat_lt c)

/-- Different characters are different code points. -/
@[simp] theorem ofChar_inj {c d : Char} : ofChar c = ofChar d ↔ c = d := by
  constructor
  · intro h
    have hv := congrArg Fin.val h
    rw [ofChar_val, ofChar_val] at hv
    exact Char.toNat_inj.mp hv
  · rintro rfl; rfl

/-- A code point given by its number, reduced into range. -/
def ofNat (n : Nat) : CodePoint := Fin.ofNat 0x110000 n

/-- Half of a surrogate pair: a code point that is no character. -/
def isSurrogate (p : CodePoint) : Bool := 0xD800 ≤ p.val && p.val ≤ 0xDFFF

/-- The character of a code point, unless it is a surrogate. -/
def toChar? (p : CodePoint) : Option Char :=
  if p.isSurrogate then none else some (Char.ofNat p.val)

/-- Within the ASCII range. -/
def isAscii (p : CodePoint) : Bool := p.val < 0x80

/-- One of the ten ASCII digits. -/
def isAsciiDigit (p : CodePoint) : Bool := 0x30 ≤ p.val && p.val ≤ 0x39

/-- An ASCII letter of either case. -/
def isAsciiLetter (p : CodePoint) : Bool :=
  (0x41 ≤ p.val && p.val ≤ 0x5A) || (0x61 ≤ p.val && p.val ≤ 0x7A)

/-- ASCII capitals become small letters; every other code point stays. -/
def toAsciiLower (p : CodePoint) : CodePoint :=
  if 0x41 ≤ p.val && p.val ≤ 0x5A then ofNat (p.val + 0x20) else p

/-- The value of a hexadecimal digit of either case. -/
def hexValue? (p : CodePoint) : Option Nat :=
  if p.isAsciiDigit then some (p.val - 0x30)
  else if 0x61 ≤ p.val && p.val ≤ 0x66 then some (p.val - 0x57)
  else if 0x41 ≤ p.val && p.val ≤ 0x46 then some (p.val - 0x37)
  else none

end CodePoint

/-- Text: any sequence of code points. -/
structure Text where
  points : List CodePoint
deriving DecidableEq, Inhabited

namespace Text

/-! ## Making text -/

/-- The text of a string, which has no surrogates. -/
def ofString (s : String) : Text := ⟨s.toList.map CodePoint.ofChar⟩

instance : Coe String Text := ⟨ofString⟩

/-- Different strings are different texts. -/
@[simp] theorem ofString_inj {s t : String} : ofString s = ofString t ↔ s = t := by
  constructor
  · intro h
    have hm : s.toList.map CodePoint.ofChar = t.toList.map CodePoint.ofChar := congrArg points h
    have hl : s.toList = t.toList :=
      (List.map_inj_right fun _ _ => CodePoint.ofChar_inj.mp).mp hm
    exact String.toList_inj.mp hl
  · rintro rfl; rfl

/-- The text without any code point. -/
def empty : Text := ⟨[]⟩

instance : Append Text := ⟨fun s t => ⟨s.points ++ t.points⟩⟩

@[simp] theorem points_append (s t : Text) : (s ++ t).points = s.points ++ t.points := rfl

@[simp] theorem points_empty : empty.points = [] := rfl

theorem append_assoc (s t u : Text) : s ++ t ++ u = s ++ (t ++ u) := by
  cases s; cases t; cases u
  exact congrArg Text.mk (List.append_assoc _ _ _)

/-- Pieces one after the other. -/
def concat (pieces : List Text) : Text := ⟨pieces.flatMap points⟩

@[simp] theorem points_concat (pieces : List Text) :
    (concat pieces).points = pieces.flatMap points := rfl

/-- Pieces with a separator between neighbours. -/
def join (separator : Text) (pieces : List Text) : Text :=
  concat (pieces.intersperse separator)

/-- A natural number in decimal digits. -/
def ofNat (n : Nat) : Text := ofString (toString n)

/-- An integer in decimal digits, with a minus sign when negative. -/
def ofInt (i : Int) : Text := ofString (toString i)

/-! ## Measuring and looking -/

/-- How many code points. -/
def length (t : Text) : Nat := t.points.length

/-- No code points. -/
def isEmpty (t : Text) : Bool := t.points.isEmpty

@[simp] theorem isEmpty_iff (t : Text) : t.isEmpty = true ↔ t = empty := by
  cases t; simp [isEmpty, empty]

/-- Does the text begin with the other one? -/
def startsWith (t start : Text) : Bool := start.points.isPrefixOf t.points

/-- Does the text finish with the other one? -/
def endsWith (t ending : Text) : Bool := ending.points.isSuffixOf t.points

/-- Does the list occur somewhere in the other one, without gaps? -/
def occursIn (needle : List CodePoint) : List CodePoint → Bool
  | [] => needle.isEmpty
  | p :: rest => needle.isPrefixOf (p :: rest) || occursIn needle rest

/-- Does the other text occur somewhere in this one? -/
def contains (t part : Text) : Bool := occursIn part.points t.points

/-- `occursIn` decides the infix relation. -/
theorem occursIn_iff (needle hay : List CodePoint) : occursIn needle hay = true ↔ needle <:+: hay := by
  induction hay with
  | nil => simp [occursIn, List.isEmpty_iff]
  | cons p rest ih =>
    simp [occursIn, ih, List.infix_cons_iff, List.isPrefixOf_iff_prefix]

/-- **Containment is the infix relation on code points.** -/
theorem contains_iff (t part : Text) : t.contains part = true ↔ part.points <:+: t.points :=
  occursIn_iff _ _

/-- At least one surrogate half stands in the text. -/
def hasSurrogate (t : Text) : Bool := t.points.any CodePoint.isSurrogate

/-- Only ASCII code points. -/
def isAscii (t : Text) : Bool := t.points.all CodePoint.isAscii

/-- The string of a text; a surrogate, which no string can hold, becomes U+FFFD. -/
def toDisplay (t : Text) : String :=
  String.ofList (t.points.map fun p => p.toChar?.getD (Char.ofNat 0xFFFD))

/-- What stands before the first line feed. -/
def firstLine (t : Text) : Text := ⟨t.points.takeWhile (· ≠ ('\n' : Char))⟩

/-- The first code points, at most `n`. -/
def take (t : Text) (n : Nat) : Text := ⟨t.points.take n⟩

/-- The pieces of a list between the members that satisfy the test. -/
def piecesBetween (test : CodePoint → Bool) : List CodePoint → List (List CodePoint)
  | [] => [[]]
  | p :: rest =>
    match piecesBetween test rest with
    | [] => [[p]]
    | piece :: pieces => if test p then [] :: piece :: pieces else (p :: piece) :: pieces

/-- There is one piece more than there are separators. -/
theorem length_piecesBetween (test : CodePoint → Bool) (ps : List CodePoint) :
    (piecesBetween test ps).length = ps.countP test + 1 := by
  induction ps with
  | nil => rfl
  | cons p rest ih =>
    cases h : piecesBetween test rest with
    | nil => rw [h] at ih; simp at ih
    | cons piece pieces =>
      rw [h, List.length_cons] at ih
      by_cases hp : test p = true <;> simp [piecesBetween, h, hp] <;> omega

/-- The pieces of the text between the code points that satisfy the test. -/
def splitBy (test : CodePoint → Bool) (t : Text) : List Text :=
  (piecesBetween test t.points).map Text.mk

/-- The pieces of the text between occurrences of a code point. -/
def splitOn (t : Text) (separator : CodePoint) : List Text := t.splitBy (· = separator)

/-- What stands before the first occurrence of a code point, and what after it if there is one. -/
def cutAt (t : Text) (separator : CodePoint) : Text × Option Text :=
  let before := t.points.takeWhile (· ≠ separator)
  match t.points.drop before.length with
  | [] => (t, none)
  | _ :: rest => (⟨before⟩, some ⟨rest⟩)

/-- The text without its first code points. -/
def drop (t : Text) (n : Nat) : Text := ⟨t.points.drop n⟩

/-- ASCII capitals become small letters. -/
def toAsciiLower (t : Text) : Text := ⟨t.points.map CodePoint.toAsciiLower⟩

end Text

end WorkflowGate
