/-
# Labels of domain names

The strict rules for labels beyond ASCII: a label is composed text; its hyphens do not stand at its
ends nor side by side where the mark of an encoded label has them; it does not begin with a
combining mark; every code point is admitted, or admitted between such neighbours; and left-to-right
and right-to-left letters do not mix.

A whole name is a sequence of labels, with one of four dots between them and possibly one at the
end.  `Domain.encode?` gives it in ASCII, `Domain.problem?` says what is wrong with the labels that
a name in ASCII stands for.
-/
import WorkflowGate.Text.Case
import WorkflowGate.Text.Composed
import WorkflowGate.Url.LabelTable
import WorkflowGate.Url.Punycode

namespace WorkflowGate

namespace Label

/-! ## 1. Neighbours -/

/-- How a letter joins its neighbours in writing. -/
inductive Joining
  | following
  | preceding
  | dual
  | transparent
  | none
deriving DecidableEq

/-- The joining behaviour of a code point. -/
def joining (p : CodePoint) : Joining :=
  if LabelTable.joiningFollowing.covers p.val then .following
  else if LabelTable.joiningPreceding.covers p.val then .preceding
  else if LabelTable.joiningDual.covers p.val then .dual
  else if LabelTable.joiningTransparent.covers p.val then .transparent
  else .none

/-- The class of marks that suppress the vowel of a consonant. -/
def viramaClass : Nat := 9

/-- Is the nearest neighbour a vowel-suppressing mark? -/
def followsVirama (before : List CodePoint) : Bool :=
  match before with
  | [] => false
  | p :: _ => p.combiningClass = viramaClass

/-- Does the nearest neighbour that joining does not pass over join in one of the given ways? -/
def joinsWith (ways : List Joining) (neighbours : List CodePoint) : Bool :=
  match neighbours.dropWhile fun p => joining p = .transparent with
  | [] => false
  | p :: _ => ways.contains (joining p)

/-- May the code point stand between what comes before it, nearest first, and what comes after
it? -/
def admitsBetween (before : List CodePoint) (p : CodePoint) (after : List CodePoint) : Bool :=
  let whole := before ++ p :: after
  let within (rs : Ranges) (ps : List CodePoint) : Bool := (ps.head?).any fun q => rs.covers q.val
  match p.val with
  | 0x200C =>
    followsVirama before ||
      (joinsWith [.following, .dual] before && joinsWith [.preceding, .dual] after)
  | 0x200D => followsVirama before
  | 0x00B7 => before.head? = some (CodePoint.ofNat 0x6C) && after.head? = some (CodePoint.ofNat 0x6C)
  | 0x0375 => within LabelTable.greek after
  | 0x05F3 => within LabelTable.hebrew before
  | 0x05F4 => within LabelTable.hebrew before
  | 0x30FB =>
    whole.any fun q =>
      LabelTable.hiragana.covers q.val || LabelTable.han.covers q.val ||
        (LabelTable.katakana.covers q.val && q.val ≠ 0x30FB)
  | n =>
    if 0x660 ≤ n ∧ n ≤ 0x669 then whole.all fun q => !(0x6F0 ≤ q.val && q.val ≤ 0x6F9)
    else if 0x6F0 ≤ n ∧ n ≤ 0x6F9 then whole.all fun q => !(0x660 ≤ q.val && q.val ≤ 0x669)
    else LabelTable.admitted.covers n

/-- The first code point that may not stand where it does; `before` is what has been passed, nearest
first. -/
def firstRefused? (before : List CodePoint) : List CodePoint → Option CodePoint
  | [] => none
  | p :: rest => if admitsBetween before p rest then firstRefused? (p :: before) rest else some p

/-- Is the code point admitted between some neighbours and not between others? -/
def isContextual (p : CodePoint) : Bool :=
  [0x200C, 0x200D, 0xB7, 0x375, 0x5F3, 0x5F4, 0x30FB].contains p.val ||
    (0x660 ≤ p.val && p.val ≤ 0x669) || (0x6F0 ≤ p.val && p.val ≤ 0x6F9)

/-! ## 2. Directions -/

/-- The writing direction of a code point. -/
inductive Direction
  | left
  | right
  | arabicLetter
  | arabicNumber
  | europeanNumber
  | nonSpacing
  | neutral
deriving DecidableEq

/-- The direction of an admitted code point. -/
def direction (p : CodePoint) : Direction :=
  if LabelTable.rightToLeft.covers p.val then .right
  else if LabelTable.arabicLetter.covers p.val then .arabicLetter
  else if LabelTable.arabicNumber.covers p.val then .arabicNumber
  else if LabelTable.europeanNumber.covers p.val then .europeanNumber
  else if LabelTable.nonSpacing.covers p.val then .nonSpacing
  else if LabelTable.neutral.covers p.val then .neutral
  else .left

/-- The direction of the last code point that is no mark without space. -/
def lastDirection? (ds : List Direction) : Option Direction :=
  (ds.reverse.dropWhile (· = .nonSpacing)).head?

/-- Do the directions go together?  A label with anything written from right to left begins with
such a letter, has no letters of the other direction and not both kinds of digits, and ends with a
letter or a digit. -/
def directionsAgree (ds : List Direction) : Bool :=
  let turned : List Direction := [.right, .arabicLetter, .arabicNumber]
  if !ds.any turned.contains then true
  else
    (ds.head? = some .right || ds.head? = some .arabicLetter) && !ds.contains .left &&
      !(ds.contains .arabicNumber && ds.contains .europeanNumber) &&
      (lastDirection? ds).any (.europeanNumber :: turned).contains

/-! ## 3. Labels -/

/-- The greatest length of a name with a dot at its end. -/
def nameLimit : Nat := 254

/-- The greatest length of a label in ASCII. -/
def labelLimit : Nat := 63

/-- A hyphen. -/
def hyphen : CodePoint := ('-' : Char)

/-- What is wrong with a label. -/
inductive Problem
  /-- It is empty or too long, not composed, has hyphens where none may stand, begins with a mark, or
  stands for no label. -/
  | malformed
  /-- It holds a code point that no label may hold. -/
  | refused
  /-- It holds a code point that may not stand between its neighbours. -/
  | misplaced
  /-- Its writing directions do not go together. -/
  | directions
deriving DecidableEq

/-- Does the label keep the rules on its form, whatever its code points? -/
def isWellFormed (label : Text) : Bool :=
  let ps := label.points
  !ps.isEmpty && ps.length ≤ nameLimit && label.isComposed &&
    !((ps.drop 2).take 2 = [hyphen, hyphen]) &&
    ps.head? ≠ some hyphen && ps.getLast? ≠ some hyphen &&
    !(ps.head?.any fun p => LabelTable.marks.covers p.val)

/-- The first rule that the label breaks. -/
def problem? (label : Text) : Option Problem :=
  if !isWellFormed label then some .malformed
  else
    match firstRefused? [] label.points with
    | some p => some (if isContextual p then .misplaced else .refused)
    | none => if directionsAgree (label.points.map direction) then none else some .directions

/-- Does the label follow the rules? -/
def isValid (label : Text) : Bool := (problem? label).isNone

/-- The mark of an encoded label. -/
def encodedMark : Text := "xn--"

/-- The first rule that a label in ASCII small letters breaks, once decoded if it is an encoded
one. -/
def asciiProblem? (label : Text) : Option Problem :=
  if label.startsWith encodedMark then
    let rest := label.drop encodedMark.length
    if rest.isEmpty || rest.endsWith "-" then some .malformed
    else
      match Punycode.decode? rest with
      | some decoded => problem? decoded
      | none => some .malformed
  else problem? label

/-- The label in ASCII, if it follows the rules and is not too long. -/
def encode? (label : Text) : Option Text :=
  if label.isAscii then
    if (asciiProblem? label.toAsciiLower).isNone && label.length ≤ labelLimit then some label else none
  else
    let encoded := encodedMark ++ Punycode.encode label
    if isValid label && encoded.length ≤ labelLimit then some encoded else none

end Label

namespace Domain

/-- The dots that may stand between labels. -/
def isDot (p : CodePoint) : Bool :=
  p.val = 0x2E || p.val = 0x3002 || p.val = 0xFF0E || p.val = 0xFF61

/-- The labels of a name, and whether there is a dot behind the last one. -/
def labels (name : Text) : List Text × Bool :=
  let pieces := name.splitBy isDot
  if pieces.getLast?.any Text.isEmpty then (pieces.dropLast, true) else (pieces, false)

/-- The name in ASCII, if all its labels follow the rules. -/
def encode? (name : Text) : Option Text :=
  let (pieces, dotted) := labels name
  if name.length > Label.nameLimit ∨ pieces.isEmpty then none
  else
    (pieces.mapM Label.encode?).bind fun encoded =>
      let whole := Text.join "." (encoded ++ if dotted then [Text.empty] else [])
      if whole.length ≤ (if dotted then Label.nameLimit else Label.nameLimit - 1) then some whole
      else none

/-- What is wrong with the labels that a name in ASCII stands for. -/
def problem? (name : Text) : Option Label.Problem :=
  let (pieces, _) := labels name
  if name.length > Label.nameLimit || pieces.isEmpty then some .malformed
  else pieces.findSome? fun label => Label.asciiProblem? label.toAsciiLower

end Domain

end WorkflowGate
