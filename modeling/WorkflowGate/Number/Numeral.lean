/-
# Numerals

Reading a number from text: a sign, digits with at most one point, an exponent, or one of the words
for infinity and for NaN in any case.  `Numeral.read?` reads the bare grammar; two wider forms allow
separators between digits, one also digits of any script.

A numeral is exact: its value is `digits · 10 ^ exponent`, and `toBinary64` rounds it once.
-/
import WorkflowGate.Text.Blank
import WorkflowGate.Text.Digit
import WorkflowGate.Number.Binary64

namespace WorkflowGate

/-- A number as written. -/
inductive Numeral
  | nan
  | infinity (negative : Bool)
  | decimal (negative : Bool) (digits : List CodePoint) (exponent : Int)
deriving DecidableEq

namespace Numeral

/-! ## 1. Value -/

/-- The natural number that a row of ASCII digits shows. -/
def digitsValue (ds : List CodePoint) : Nat := ds.foldl (fun n d => 10 * n + (d.val - 0x30)) 0

/-- The nearest 64-bit number to `digits · 10 ^ exponent`.  A magnitude beyond `10 ^ ±400` is
infinite or zero without further work. -/
def roundDecimal (negative : Bool) (digits : List CodePoint) (exponent : Int) : Binary64 :=
  let significant := digits.dropWhile fun p : CodePoint => p = ('0' : Char)
  let magnitude := exponent + significant.length
  if significant.isEmpty then .finite negative 0
  else if magnitude > 400 then .infinite negative
  else if magnitude < -400 then .finite negative 0
  else if 0 ≤ exponent then
    .ofRatio negative (digitsValue significant * Nat.pow 10 exponent.toNat) 1
  else .ofRatio negative (digitsValue significant) (Nat.pow 10 (-exponent).toNat)

/-- The nearest 64-bit number. -/
def toBinary64 : Numeral → Binary64
  | nan => .nan
  | infinity negative => .infinite negative
  | decimal negative digits exponent => roundDecimal negative digits exponent

/-! ## 2. The bare grammar -/

/-- Splits off a sign; none counts as plus. -/
def splitSign : List CodePoint → Bool × List CodePoint
  | [] => (false, [])
  | p :: rest =>
    if p = ('-' : Char) then (true, rest)
    else if p = ('+' : Char) then (false, rest)
    else (false, p :: rest)

/-- The leading ASCII digits and what follows them. -/
def splitDigits (ps : List CodePoint) : List CodePoint × List CodePoint :=
  (ps.takeWhile CodePoint.isAsciiDigit, ps.dropWhile CodePoint.isAsciiDigit)

/-- Splitting off digits loses nothing. -/
theorem splitDigits_append (ps : List CodePoint) : (splitDigits ps).1 ++ (splitDigits ps).2 = ps :=
  List.takeWhile_append_dropWhile

/-- An exponent part that fills the rest of the text; an absent one is zero. -/
def readExponent? : List CodePoint → Option Int
  | [] => some 0
  | e :: rest =>
    if e = ('e' : Char) ∨ e = ('E' : Char) then
      let (negative, ds) := splitSign rest
      if ds.isEmpty ∨ ¬ ds.all CodePoint.isAsciiDigit then none
      else some (if negative then -(digitsValue ds : Int) else digitsValue ds)
    else none

/-- Digits with at most one point, at least one digit, then an exponent part. -/
def readDecimal? (negative : Bool) (ps : List CodePoint) : Option Numeral :=
  let (whole, rest) := splitDigits ps
  let (fraction, rest) :=
    match rest with
    | [] => ([], [])
    | p :: rest' => if p = ('.' : Char) then splitDigits rest' else ([], p :: rest')
  if whole.isEmpty ∧ fraction.isEmpty then none
  else (readExponent? rest).map fun e =>
    decimal negative (whole ++ fraction) (e - fraction.length)

/-- A signed decimal or one of the words `inf`, `infinity`, `nan` in any case. -/
def read? (ps : List CodePoint) : Option Numeral :=
  let (negative, body) := splitSign ps
  let word := Text.toAsciiLower ⟨body⟩
  if word = ("inf" : Text) ∨ word = ("infinity" : Text) then some (infinity negative)
  else if word = ("nan" : Text) then some nan
  else readDecimal? negative body

/-! ## 3. Separators and other scripts -/

/-- Removes underscores, each of which must stand between two ASCII digits. -/
def dropSeparators? : (previousIsDigit : Bool) → List CodePoint → Option (List CodePoint)
  | _, [] => some []
  | previousIsDigit, p :: rest =>
    if p = ('_' : Char) then
      match rest with
      | [] => none
      | q :: _ =>
        if previousIsDigit && q.isAsciiDigit then dropSeparators? false rest else none
    else (dropSeparators? p.isAsciiDigit rest).map (p :: ·)

/-- Every decimal digit of any script becomes the ASCII digit of the same value. -/
def toAsciiDigit (p : CodePoint) : CodePoint :=
  match p.digitValue? with
  | some d => CodePoint.ofNat (0x30 + d)
  | none => p

/-- Reads a numeral whose digits may come from any script, with underscores between them. -/
def readLenient? (t : Text) : Option Numeral :=
  (dropSeparators? false (t.points.map toAsciiDigit)).bind read?

/-- Reads a numeral in ASCII digits.  White space around it is dropped; failing that, underscores
are, which may stand anywhere but at the ends or side by side. -/
def readLoose? (t : Text) : Option Numeral :=
  let trimmed := t.trimBy fun p => p.isBlank && !(0x1C ≤ p.val && p.val ≤ 0x1F)
  let underscore : CodePoint := ('_' : Char)
  match read? trimmed.points with
  | some n => some n
  | none =>
    if t.startsWith "_" || t.endsWith "_" || t.contains "__" then none
    else read? (t.points.filter (· ≠ underscore))

/-! ## 4. Whole numbers -/

/-- The most digits that an integer may be written with. -/
def digitLimit : Nat := 4300

/-- The integer that a text spells: sign, then digits of any script with underscores between them,
white space around, and no more digits than `digitLimit`. -/
def readInteger? (t : Text) : Option Int :=
  let outer := t.trimBy fun p => p.isBlank && !(0x1C ≤ p.val && p.val ≤ 0x1F)
  let (negative, body) := splitSign (outer.points.map toAsciiDigit)
  match dropSeparators? false body with
  | none => none
  | some ds =>
    if ds.isEmpty || !ds.all CodePoint.isAsciiDigit || ds.length > digitLimit then none
    else some (if negative then -(digitsValue ds : Int) else digitsValue ds)

end Numeral

end WorkflowGate
