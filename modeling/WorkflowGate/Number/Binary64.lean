/-
# Floating-point numbers of 64 bits

Every finite number of the format is a whole multiple of the least positive one, `2⁻¹⁰⁷⁴`.  So a
finite number is held as a sign and a count of such units, and all arithmetic on it is exact
arithmetic on natural numbers followed by one rounding (`nearestUnits`).

Order is read off the extended number line (`Place`), on which whole numbers have their places
too; so a float and an integer of any size compare exactly.  NaN has no place.

* `Place.le_total`, `Place.le_antisymm`, `Place.le_trans`: places are linearly ordered;
* `place?_eq_none_iff`: only NaN lies off the line;
* `roundDiv_mul`: rounding to nearest leaves a multiple as it is.
-/

namespace WorkflowGate

/-! ## 1. Rounding to the nearest whole number -/

/-- The whole number nearest to `num / den`; a half goes to the even neighbour. -/
def roundDiv (num den : Nat) : Nat :=
  let q := num / den
  let r := num % den
  if 2 * r < den then q
  else if den < 2 * r then q + 1
  else if q % 2 = 0 then q
  else q + 1

/-- A quotient without remainder is not moved. -/
theorem roundDiv_mul (q den : Nat) (h : 0 < den) : roundDiv (q * den) den = q := by
  simp [roundDiv, Nat.mul_div_cancel _ h, h]

/-- A rounded quotient is the floor or one more. -/
theorem roundDiv_bounds (num den : Nat) :
    num / den ≤ roundDiv num den ∧ roundDiv num den ≤ num / den + 1 := by
  unfold roundDiv
  dsimp only
  split
  · omega
  · split
    · omega
    · split <;> omega

/-! ## 2. The extended number line -/

/-- A place on the number line, measured in units of `2⁻¹⁰⁷⁴`, or one of its two ends. -/
inductive Place
  | bottom
  | at (units : Int)
  | top
deriving DecidableEq

namespace Place

/-- Not to the right of. -/
def le : Place → Place → Bool
  | bottom, _ => true
  | _, top => true
  | .at a, .at b => a ≤ b
  | _, _ => false

/-- Strictly to the left of. -/
def lt (a b : Place) : Bool := !le b a

/-- Any two places are comparable. -/
theorem le_total (a b : Place) : le a b = true ∨ le b a = true := by
  cases a <;> cases b <;> simp [le]
  omega

theorem le_trans {a b c : Place} (hab : le a b = true) (hbc : le b c = true) : le a c = true := by
  cases a <;> cases b <;> cases c <;> simp_all [le]
  omega

theorem le_antisymm {a b : Place} (hab : le a b = true) (hba : le b a = true) : a = b := by
  cases a <;> cases b <;> simp_all [le]
  omega

/-- Strictly left is the negation of not right. -/
@[simp] theorem lt_eq_true_iff (a b : Place) : lt a b = true ↔ le b a = false := by
  simp [lt]

end Place

/-- Units in the number one. -/
def unitsPerOne : Nat := Nat.pow 2 1074

/-- The place of a whole number. -/
def placeOfInt (i : Int) : Place := .at (i * unitsPerOne)

/-! ## 3. The numbers -/

/-- A number of the 64-bit binary format. -/
inductive Binary64
  | nan
  | infinite (negative : Bool)
  | finite (negative : Bool) (units : Nat)
deriving DecidableEq, Inhabited

namespace Binary64

/-- Positive zero. -/
def zero : Binary64 := finite false 0

/-- The place of a number; NaN has none. -/
def place? : Binary64 → Option Place
  | nan => none
  | infinite true => some .bottom
  | infinite false => some .top
  | finite negative units => some (.at (if negative then -(units : Int) else units))

/-- Only NaN lies off the number line. -/
theorem place?_eq_none_iff (x : Binary64) : x.place? = none ↔ x = nan := by
  cases x with
  | nan => simp [place?]
  | infinite negative => cases negative <;> simp [place?]
  | finite negative units => simp [place?]

/-- Less or equal; false when either number is NaN. -/
def le (x y : Binary64) : Bool :=
  match x.place?, y.place? with
  | some a, some b => a.le b
  | _, _ => false

/-- Strictly less; false when either number is NaN. -/
def lt (x y : Binary64) : Bool :=
  match x.place?, y.place? with
  | some a, some b => a.lt b
  | _, _ => false

/-- Two numbers that are not NaN are ordered one way or the other. -/
theorem lt_or_le {x y : Binary64} (hx : x ≠ nan) (hy : y ≠ nan) :
    x.lt y = true ∨ y.le x = true := by
  cases hpx : x.place? with
  | none => exact absurd ((place?_eq_none_iff x).mp hpx) hx
  | some a =>
    cases hpy : y.place? with
    | none => exact absurd ((place?_eq_none_iff y).mp hpy) hy
    | some b =>
      simp only [lt, le, hpx, hpy]
      cases h : b.le a
      · left; simp [Place.lt, h]
      · right; rfl

/-- Is the number a zero of either sign? -/
def isZero : Binary64 → Bool
  | finite _ 0 => true
  | _ => false

/-- Neither NaN nor infinite. -/
def isFinite : Binary64 → Bool
  | finite _ _ => true
  | _ => false

/-! ## 4. Rounding into the format -/

/-- The count of units nearest to `num / den` that has at most 53 significant bits; a half goes to
the count whose last significant bit is zero. -/
def nearestUnits (num den : Nat) : Nat :=
  let q := num / den
  if q < Nat.pow 2 53 then roundDiv num den
  else
    let scale := Nat.pow 2 (q.log2 - 52)
    roundDiv num (den * scale) * scale

/-- The number nearest to `num / den` units; infinite from `2¹⁰²⁴` on.  Its range is too large a
number to be unfolded by the way. -/
@[irreducible] def ofUnits (negative : Bool) (num den : Nat) : Binary64 :=
  let units := nearestUnits num den
  if units < Nat.pow 2 2098 then finite negative units else infinite negative

/-- The number nearest to the quotient `num / den`. -/
def ofRatio (negative : Bool) (num den : Nat) : Binary64 :=
  ofUnits negative (unitsPerOne * num) den

/-- The number nearest to an integer, unless that is infinite. -/
def ofInt? (i : Int) : Option Binary64 :=
  match ofRatio (i < 0) i.natAbs 1 with
  | infinite _ => none
  | x => some x

/-! ## 5. Arithmetic -/

/-- A signed count of units as a number; the sign of a zero is given. -/
def ofSignedUnits (zeroNegative : Bool) (units : Int) : Binary64 :=
  if units = 0 then finite zeroNegative 0 else ofUnits (units < 0) units.natAbs 1

/-- The rounded sum.  Opposite infinities give NaN, and a zero sum is negative only if both terms
are. -/
def add : Binary64 → Binary64 → Binary64
  | nan, _ => nan
  | _, nan => nan
  | infinite a, infinite b => if a = b then infinite a else nan
  | infinite a, finite _ _ => infinite a
  | finite _ _, infinite b => infinite b
  | finite a m, finite b n =>
    ofSignedUnits (a && b) ((if a then -(m : Int) else m) + (if b then -(n : Int) else n))

/-- The rounded quotient by a positive whole number. -/
def divNat (x : Binary64) (n : Nat) : Binary64 :=
  match x with
  | finite negative units => ofUnits negative units n
  | other => other

/-- The nearest whole number, a half going to the even neighbour; NaN and infinities have none. -/
def round? : Binary64 → Option Int
  | finite negative units =>
    let n := roundDiv units unitsPerOne
    some (if negative then -(n : Int) else n)
  | _ => none

/-- The whole number that the number is, if it is one. -/
def toInt? : Binary64 → Option Int
  | finite negative units =>
    if units % unitsPerOne = 0 then
      let n := units / unitsPerOne
      some (if negative then -(n : Int) else n)
    else none
  | _ => none

/-! ## 6. The 64 bits -/

/-- The number with the given bits: one for the sign, eleven for the exponent, fifty-two for the
rest of the significand. -/
def ofBits (bits : Nat) : Binary64 :=
  let negative := bits / Nat.pow 2 63 % 2 = 1
  let exponent := bits / Nat.pow 2 52 % Nat.pow 2 11
  let fraction := bits % Nat.pow 2 52
  if exponent = Nat.pow 2 11 - 1 then
    if fraction = 0 then infinite negative else nan
  else if exponent = 0 then finite negative fraction
  else finite negative ((Nat.pow 2 52 + fraction) * Nat.pow 2 (exponent - 1))

/-- The bits of a number; NaN has the quiet pattern without sign. -/
def toBits : Binary64 → Nat
  | nan => 0x7FF8000000000000
  | infinite negative => (if negative then Nat.pow 2 63 else 0) + 0x7FF0000000000000
  | finite negative units =>
    (if negative then Nat.pow 2 63 else 0) +
      if units < Nat.pow 2 52 then units
      else
        let shift := units.log2 - 52
        (shift + 1) * Nat.pow 2 52 + (units / Nat.pow 2 shift - Nat.pow 2 52)

end Binary64

end WorkflowGate
