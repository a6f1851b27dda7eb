/-
# Writing numbers to a given precision

Three ways to write a count of units (`Binary64`) in decimal: with a fixed number of places behind
the point, with a fixed number of places and an exponent, or with a number of significant digits and
an exponent only where it is needed.  Each is rounded once, a half going to the even neighbour.

A point with nothing behind it is left out unless it is to be kept.

* `layPoint_of_fraction`: where there are places, there is a point.
-/
import WorkflowGate.Number.Shortest

namespace WorkflowGate

namespace Decimal

/-- Digits before and behind the point. -/
def layPoint (keepsPoint : Bool) (whole fraction : List Char) : List Char :=
  whole ++
    match fraction with
    | [] => if keepsPoint then ['.'] else []
    | digits => '.' :: digits

/-- Where there are places, there is a point. -/
theorem layPoint_of_fraction (keepsPoint : Bool) (whole fraction : List Char)
    (h : fraction ≠ []) : layPoint keepsPoint whole fraction = whole ++ '.' :: fraction := by
  cases fraction with
  | nil => exact absurd rfl h
  | cons d rest => rfl

/-- Zeros. -/
def zeros (count : Nat) : List Char := List.replicate count '0'

/-- The digits of a number, with zeros in front up to a count. -/
def paddedDigits (count n : Nat) : List Char :=
  let digits := Nat.toDigits 10 n
  zeros (count - digits.length) ++ digits

/-- The decimal of a count of significant digits; that of zero is a single digit. -/
def significant (count units : Nat) : Decimal :=
  if units = 0 then ⟨['0'], 0⟩ else rounded count units unitsPerOne

/-- The digits with zeros behind them up to a count. -/
def filled (x : Decimal) (count : Nat) : List Char := x.digits ++ zeros (count - x.digits.length)

/-- With a fixed number of places. -/
def fixed (keepsPoint : Bool) (places units : Nat) : List Char :=
  let digits := paddedDigits (places + 1) (roundDiv (units * Nat.pow 10 places) unitsPerOne)
  let whole := digits.length - places
  layPoint keepsPoint (digits.take whole) (digits.drop whole)

/-- Digits with an exponent. -/
def laidWithExponent (keepsPoint : Bool) (digits : List Char) (exponent : Int) : List Char :=
  layPoint keepsPoint (digits.take 1) (digits.drop 1) ++ (exponentPart exponent).toList

/-- With a fixed number of places and an exponent. -/
def scientific (keepsPoint : Bool) (places units : Nat) : List Char :=
  let x := significant (places + 1) units
  laidWithExponent keepsPoint (x.filled (places + 1)) x.exponent

/-- With a number of significant digits; zeros at the end are kept only where a lone point is. -/
def general (keepsPoint : Bool) (count units : Nat) : List Char :=
  let count := max count 1
  let x := significant count units
  let digits := if keepsPoint then x.filled count else x.digits
  if -4 ≤ x.exponent ∧ x.exponent < count then
    if x.exponent < 0 then layPoint keepsPoint ['0'] (zeros (-x.exponent - 1).toNat ++ digits)
    else
      let whole := x.exponent.toNat + 1
      layPoint keepsPoint (digits.take whole ++ zeros (whole - digits.length)) (digits.drop whole)
  else laidWithExponent keepsPoint digits x.exponent

end Decimal

end WorkflowGate
