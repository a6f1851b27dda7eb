/-
# Composed text

Text is composed when every letter with its marks is written in the one canonical way that uses as
few code points as possible.  To tell, a text is taken apart, its marks are put in canonical order,
and it is put together again: composed text is what this leaves as it is.

* `decomposePoint_of_not_composite`: a code point that is no composite is taken apart into itself.
-/
import WorkflowGate.Text.Basic
import WorkflowGate.Text.CompositeTable

namespace WorkflowGate

namespace CodePoint

/-! ## 1. Properties -/

/-- The canonical combining class; zero for whatever starts a new letter. -/
def combiningClass (p : CodePoint) : Nat :=
  match CompositeTable.combiningClasses.find? fun (first, last, _) =>
    first ≤ p.val && p.val ≤ last with
  | some (_, _, k) => k
  | none => 0

/-- The parts of a composite that is no Hangul syllable. -/
def tableParts? (n : Nat) : Option (Nat × Nat) :=
  CompositeTable.composites.lookup n

/-- The composite of two code points, unless it is a Hangul syllable. -/
def tableComposite? (a b : Nat) : Option Nat :=
  (CompositeTable.composites.find? fun (_, a', b') => a' = a && b' = b).map (·.1)

/-! ## 2. Hangul

A syllable is computed from its leading consonant, its vowel and its trailing consonant, if any. -/

/-- The parts of a syllable: with a trailing consonant, the syllable without it and that consonant;
otherwise the leading consonant and the vowel. -/
def hangulParts? (n : Nat) : Option (Nat × Nat) :=
  if 0xAC00 ≤ n ∧ n ≤ 0xD7A3 then
    let index := n - 0xAC00
    let trailing := index % 28
    if trailing = 0 then some (0x1100 + index / 588, 0x1161 + index % 588 / 28)
    else some (n - trailing, 0x11A7 + trailing)
  else none

/-- The syllable of two parts. -/
def hangulComposite? (a b : Nat) : Option Nat :=
  if 0x1100 ≤ a ∧ a < 0x1113 ∧ 0x1161 ≤ b ∧ b < 0x1176 then
    some (0xAC00 + ((a - 0x1100) * 21 + (b - 0x1161)) * 28)
  else if 0xAC00 ≤ a ∧ a ≤ 0xD7A3 ∧ (a - 0xAC00) % 28 = 0 ∧ 0x11A7 < b ∧ b < 0x11C3 then
    some (a + (b - 0x11A7))
  else none

/-- The two parts of a composite. -/
def parts? (n : Nat) : Option (Nat × Nat) := (hangulParts? n).or (tableParts? n)

/-- The composite of two code points. -/
def composite? (a b : Nat) : Option Nat := (hangulComposite? a b).or (tableComposite? a b)

end CodePoint

namespace Text

/-! ## 3. Taking apart and putting together -/

/-- How often a composite can be taken apart: a Greek letter with breathing, accent and iota is taken
apart three times. -/
def compositeDepth : Nat := 4

/-- A code point taken apart at most so often: the first part again, then the second one. -/
def decomposeWithin : (depth : Nat) → Nat → List Nat
  | 0, n => [n]
  | depth + 1, n =>
    match CodePoint.parts? n with
    | none => [n]
    | some (a, b) => decomposeWithin depth a ++ [b]

/-- A code point taken apart as far as possible. -/
def decomposePoint (n : Nat) : List Nat := decomposeWithin compositeDepth n

/-- A code point that is no composite is taken apart into itself. -/
theorem decomposePoint_of_not_composite {n : Nat} (h : CodePoint.parts? n = none) :
    decomposePoint n = [n] := by
  simp [decomposePoint, decomposeWithin, compositeDepth, h]

/-- The combining class of a number that is a code point. -/
def classOf (n : Nat) : Nat := (CodePoint.ofNat n).combiningClass

/-- Puts a code point behind others, which are given last first: a mark goes before the marks of
higher class that directly precede it. -/
def placeMark (n : Nat) : List Nat → List Nat
  | [] => [n]
  | m :: before =>
    if classOf n ≠ 0 ∧ classOf n < classOf m then m :: placeMark n before else n :: m :: before

/-- Marks in canonical order. -/
def orderMarks (ns : List Nat) : List Nat := (ns.foldl (fun done n => placeMark n done) []).reverse

/-- What has been put together: code points that are settled and the marks behind the last starter,
both last first, that starter, and the class of the last mark behind it. -/
structure Composition where
  settled : List Nat := []
  starter : Option Nat := none
  marks : List Nat := []
  lastClass : Nat := 0

/-- Everything put together so far, last first. -/
def Composition.all (c : Composition) : List Nat := c.marks ++ c.starter.toList ++ c.settled

/-- One more code point: it joins the last starter if nothing blocks it, else it stands alone. -/
def Composition.add (c : Composition) (n : Nat) : Composition :=
  let k := classOf n
  let alone : Composition :=
    if k = 0 then { settled := c.all, starter := some n }
    else { c with marks := n :: c.marks, lastClass := k }
  match c.starter with
  | none => alone
  | some s =>
    if c.marks.isEmpty ∨ c.lastClass < k then
      match CodePoint.composite? s n with
      | some joined => { c with starter := some joined }
      | none => alone
    else alone

/-- The text taken apart and put together again. -/
def compose (ns : List Nat) : List Nat :=
  ((orderMarks (ns.flatMap decomposePoint)).foldl Composition.add {}).all.reverse

/-- Is the text written in the canonical, composed way? -/
def isComposed (t : Text) : Bool :=
  let ns := t.points.map Fin.val
  ns.all (fun n => !CompositeTable.neverComposed.covers n) && compose ns = ns

end Text

end WorkflowGate
