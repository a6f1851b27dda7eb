/-
# Writing numbers in decimal

Two ways to choose the digits of a finite number, both in exact arithmetic: the fewest that read
back as the same number, and a fixed count.  `DecimalStyle` then says how digits are laid out:
positional within a range of exponents, else with an exponent of at least two digits.
-/
import WorkflowGate.Number.Numeral

namespace WorkflowGate

/-- Significant digits without trailing zeros, and the power of ten of the first one. -/
structure Decimal where
  digits : List Char
  exponent : Int
deriving DecidableEq

/-- How a number is laid out: up to which exponent positionally, whether a whole number keeps a
point, and the words for NaN and infinity. -/
structure DecimalStyle where
  positionalBelow : Int
  keepsPoint : Bool
  nanWord : String
  infinityWord : String

namespace Decimal

/-! ## 1. Choosing digits -/

/-- How many decimal digits a natural number has. -/
def width (n : Nat) : Nat := (Nat.toDigits 10 n).length

/-- The power of ten of the first digit of `num / den`, both positive. -/
def leadingExponent (num den : Nat) : Int :=
  let guess : Int := (width num : Int) - width den
  let reaches :=
    if 0 ≤ guess then den * Nat.pow 10 guess.toNat ≤ num else den ≤ num * Nat.pow 10 (-guess).toNat
  if reaches then guess else guess - 1

/-- `num / den · 10 ^ shift` as a fraction. -/
def scale (num den : Nat) (shift : Int) : Nat × Nat :=
  if 0 ≤ shift then (num * Nat.pow 10 shift.toNat, den) else (num, den * Nat.pow 10 (-shift).toNat)

/-- A significand of `count` digits, or `10 ^ count`, whose first digit has the given exponent. -/
def ofSignificand (significand count : Nat) (exponent : Int) : Decimal :=
  let shown := Nat.toDigits 10 significand
  ⟨(shown.reverse.dropWhile (· == '0')).reverse, exponent + ((shown.length : Int) - count)⟩

/-- The nearest decimal of `count` digits to `num / den`; a half goes to the even neighbour. -/
def rounded (count num den : Nat) : Decimal :=
  let e := leadingExponent num den
  let (n, d) := scale num den ((count : Int) - 1 - e)
  ofSignificand (roundDiv n d) count e

/-- Does the significand, its first digit at `exponent` when it has `count` digits, read back as
the number of `units` units? -/
def readsBack (units count : Nat) (exponent : Int) (significand : Nat) : Bool :=
  let (n, d) := scale significand 1 (exponent - count + 1)
  Binary64.ofRatio false n d = .finite false units

/-- The decimal of `count` digits that reads back as the number, the nearer of two, if any. -/
def reading? (units count : Nat) : Option Decimal :=
  let e := leadingExponent units unitsPerOne
  let (n, d) := scale units unitsPerOne ((count : Int) - 1 - e)
  let low := n / d
  let nearest := roundDiv n d
  let other := if nearest = low then low + 1 else low
  if readsBack units count e nearest then some (ofSignificand nearest count e)
  else if readsBack units count e other then some (ofSignificand other count e)
  else none

/-- The fewest digits that read back as the number of `units` units. -/
def shortest (units : Nat) : Decimal :=
  ((List.range' 1 17).findSome? (reading? units)).getD (rounded 17 units unitsPerOne)

/-! ## 2. Laying digits out -/

/-- An exponent: `e`, its sign, at least two digits. -/
def exponentPart (e : Int) : String :=
  let shown := toString e.natAbs
  "e" ++ (if e < 0 then "-" else "+") ++ (if shown.length < 2 then "0" ++ shown else shown)

/-- The digits in the given style, without sign. -/
def layOut (style : DecimalStyle) (x : Decimal) : String :=
  let zeros (n : Nat) : List Char := List.replicate n '0'
  if -4 ≤ x.exponent ∧ x.exponent < style.positionalBelow then
    if x.exponent < 0 then String.ofList ("0.".toList ++ zeros (-x.exponent - 1).toNat ++ x.digits)
    else
      let whole := x.exponent.toNat + 1
      let fraction := x.digits.drop whole
      let shown := x.digits.take whole ++ zeros (whole - x.digits.length)
      if fraction.isEmpty then String.ofList shown ++ (if style.keepsPoint then ".0" else "")
      else String.ofList (shown ++ '.' :: fraction)
  else
    let tail := x.digits.drop 1
    String.ofList (x.digits.take 1 ++ (if tail.isEmpty then [] else '.' :: tail)) ++
      exponentPart x.exponent

end Decimal

namespace Binary64

/-- The number in a style, its digits chosen by `choose` from the count of units. -/
def write (style : DecimalStyle) (choose : Nat → Decimal) : Binary64 → String
  | nan => style.nanWord
  | infinite negative => (if negative then "-" else "") ++ style.infinityWord
  | finite negative units =>
    (if negative then "-" else "") ++
      (if units = 0 then Decimal.layOut style ⟨['0'], 0⟩
       else Decimal.layOut style (choose units))

/-- The fewest digits that read back; positional below `10 ^ 16`, whole numbers keep a point. -/
def toShortest (x : Binary64) : String := x.write ⟨16, true, "nan", "inf"⟩ Decimal.shortest

/-- Like `toShortest`, with the words that a data file has for what is not finite. -/
def toDataWord (x : Binary64) : String := x.write ⟨16, true, "NaN", "Infinity"⟩ Decimal.shortest

/-- At most six significant digits; positional below `10 ^ 6`, whole numbers without a point. -/
def toSixDigits (x : Binary64) : String :=
  x.write ⟨6, false, "nan", "inf"⟩ fun units => Decimal.rounded 6 units unitsPerOne

end Binary64

end WorkflowGate
