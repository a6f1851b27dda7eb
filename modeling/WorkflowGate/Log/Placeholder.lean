/-
# Placeholders

A placeholder begins with a percent sign: possibly the name of an entry in parentheses, flags, a
width, a precision behind a point, and a letter that says how its argument is shown.  A star in
place of a number takes the number from the arguments.

* `le_length_fit`: what is shown fills the width.
-/
import WorkflowGate.Fault
import WorkflowGate.Number.Places
import WorkflowGate.Text.Case

namespace WorkflowGate

/-! ## 1. Arguments -/

/-- Arguments that placeholders take: those that come next, and the value whose entries can be
named. -/
structure Arguments where
  pending : List Value
  named : Option Value := none

namespace Arguments

/-- The arguments that a value stands for: the members of a tuple, or the value itself, whose entries
can be named if it has any. -/
def ofValue : Value → Arguments
  | .tuple items => ⟨items, none⟩
  | .list items => ⟨[.list items], some (.list items)⟩
  | .mapping es => ⟨[.mapping es], some (.mapping es)⟩
  | v => ⟨[v], none⟩

/-- Takes the next argument. -/
def take (a : Arguments) : Except Fault (Value × Arguments) :=
  match a.pending with
  | v :: rest => .ok (v, { a with pending := rest })
  | [] => .error .formatMismatch

/-- Makes the entry with a name the only argument that comes next. -/
def select (a : Arguments) (name : Text) : Except Fault Arguments :=
  match a.named with
  | some (.mapping es) =>
    match Entries.get? es name with
    | some v => .ok { a with pending := [v] }
    | none => .error (.missingEntry name)
  | _ => .error .formatMismatch

/-- Has everything been used that must be used? -/
def areUsed (a : Arguments) : Bool := a.pending.isEmpty || a.named.isSome

end Arguments

namespace Placeholder

/-! ## 2. Flags, widths and precisions -/

/-- How an argument is laid out. -/
structure Flags where
  isLeft : Bool
  hasZeros : Bool
  hasPlus : Bool
  hasBlank : Bool
  isAlternate : Bool

/-- Is the code point a flag? -/
def isFlag (p : CodePoint) : Bool := ("-0+ #" : Text).points.contains p

/-- The flags among code points. -/
def Flags.ofPoints (ps : List CodePoint) : Flags :=
  let has (c : Char) : Bool := ps.contains (CodePoint.ofChar c)
  ⟨has '-', has '0', has '+', has ' ', has '#'⟩

/-- The number that digits spell. -/
def numberOf (digits : List CodePoint) : Nat :=
  digits.foldl (fun n p => n * 10 + (p.val - 0x30)) 0

/-- A width or precision: a number, a star for an argument, or nothing.  The result is followed by
what stands behind it. -/
def readMeasure (limit : Nat) (what : String) (ps : List CodePoint) (a : Arguments) :
    Except Fault (Option Int × List CodePoint × Arguments) :=
  let bounded (i : Int) (rest : List CodePoint) (a : Arguments) :
      Except Fault (Option Int × List CodePoint × Arguments) :=
    if i.natAbs ≤ limit then .ok (some i, rest, a) else .error .numberTooLarge
  if ps.head? = some (CodePoint.ofChar '*') then do
    match ← a.take with
    | (.int i, a) => bounded i (ps.drop 1) a
    | (.bool b, a) => bounded (if b then 1 else 0) (ps.drop 1) a
    | _ => throw .formatMismatch
  else
    let digits := ps.takeWhile CodePoint.isAsciiDigit
    let n := numberOf digits
    if digits.isEmpty then .ok (none, ps, a)
    else if n ≤ limit then .ok (some n, ps.drop digits.length, a)
    else .error (.unfillable (Text.ofString what ++ " too big"))

/-- The greatest width. -/
def widthLimit : Nat := Nat.pow 2 63 - 1

/-- The greatest precision. -/
def precisionLimit : Nat := Nat.pow 2 31 - 1

/-- A precision behind a point; a point alone stands for none at all, and so does less than that. -/
def readPrecision (ps : List CodePoint) (a : Arguments) :
    Except Fault (Option Nat × List CodePoint × Arguments) :=
  if ps.head? = some (CodePoint.ofChar '.') then do
    let (n, rest, a) ← readMeasure precisionLimit "precision" (ps.drop 1) a
    return (some (n.getD 0).toNat, rest, a)
  else .ok (none, ps, a)

/-- What stands in parentheses that are open already, and what behind them. -/
def cutName (depth : Nat) : List CodePoint → Option (List CodePoint × List CodePoint)
  | [] => none
  | p :: rest =>
    if p = (')' : Char) then
      match depth with
      | 0 => some ([], rest)
      | depth + 1 => (cutName depth rest).map fun cut => (p :: cut.1, cut.2)
    else
      (cutName (if p = ('(' : Char) then depth + 1 else depth) rest).map fun cut =>
        (p :: cut.1, cut.2)

/-- The name of an entry in parentheses. -/
def readName (ps : List CodePoint) (a : Arguments) : Except Fault (List CodePoint × Arguments) :=
  if ps.head? ≠ some (CodePoint.ofChar '(') then .ok (ps, a)
  else if a.named.isNone then .error .formatMismatch
  else
    match cutName 0 (ps.drop 1) with
    | none => .error (.unfillable "incomplete format key")
    | some (name, rest) => (fun a => (rest, a)) <$> a.select ⟨name⟩

/-- May the code point stand before the letter without saying anything? -/
def isSizeMark (p : CodePoint) : Bool := ("hlL" : Text).points.contains p

/-! ## 3. Showing arguments -/

/-- An argument as it is shown before it is laid out. -/
structure Shown where
  sign : Text := Text.empty
  mark : Text := Text.empty
  body : Text
  isNumber : Bool := false

/-- The sign of a number that is not negative. -/
def Flags.positiveSign (f : Flags) : Text :=
  if f.hasPlus then "+" else if f.hasBlank then Text.ofString " " else Text.empty

/-- A number with its sign. -/
def Shown.ofNumber (f : Flags) (isNegative : Bool) (mark body : Text) : Shown :=
  ⟨if isNegative then "-" else f.positiveSign, mark, body, true⟩

/-- A code point as often as it takes to fill up from one length to another. -/
def filling (c : Char) (width length : Nat) : Text :=
  ⟨List.replicate (width - length) (CodePoint.ofChar c)⟩

/-- Lays out what is shown in a width. -/
def Shown.fit (f : Flags) (width : Nat) (s : Shown) : Text :=
  let length := (s.sign ++ s.mark ++ s.body).length
  if f.isLeft then s.sign ++ s.mark ++ s.body ++ filling ' ' width length
  else if f.hasZeros && s.isNumber then s.sign ++ s.mark ++ filling '0' width length ++ s.body
  else filling ' ' width length ++ s.sign ++ s.mark ++ s.body

/-- What is shown fills the width. -/
theorem le_length_fit (f : Flags) (width : Nat) (s : Shown) : width ≤ (s.fit f width).length := by
  unfold Shown.fit filling Text.length
  simp only
  split
  · simp only [Text.points_append, List.length_append, List.length_replicate]; omega
  · split <;> simp only [Text.points_append, List.length_append, List.length_replicate] <;> omega

/-- A value as a whole number: what stands behind the point is dropped. -/
def wholeNumber : Value → Except Fault Int
  | .int i => .ok i
  | .bool b => .ok (if b then 1 else 0)
  | .float .nan => .error (.unfillable "cannot convert float NaN to integer")
  | .float x =>
    match x.place? with
    | some (.at units) => .ok (units.tdiv unitsPerOne)
    | _ => .error .numberTooLarge
  | _ => .error .formatMismatch

/-- A value that is a whole number. -/
def exactNumber : Value → Except Fault Int
  | .int i => .ok i
  | .bool b => .ok (if b then 1 else 0)
  | _ => .error .formatMismatch

/-- A whole number in a base, in at least so many digits. -/
def showInteger (f : Flags) (base : Nat) (mark : Text) (capital : Bool) (precision : Option Nat)
    (i : Int) : Shown :=
  let digits := Nat.toDigits base i.natAbs
  let all := Decimal.zeros (precision.getD 0 - digits.length) ++ digits
  let all := if capital then all.map Char.toUpper else all
  Shown.ofNumber f (i < 0) (if f.isAlternate then mark else Text.empty) (String.ofList all)

/-- The way to write a count of units, if the letter asks for one. -/
def floatStyle? (letter : Char) : Option (Bool → Nat → Nat → List Char) :=
  match letter.toLower with
  | 'e' => some Decimal.scientific
  | 'f' => some Decimal.fixed
  | 'g' => some Decimal.general
  | _ => none

/-- How many places there are unless a precision says otherwise. -/
def usualPlaces : Nat := 6

/-- A float in a style. -/
def showFloat (f : Flags) (style : Bool → Nat → Nat → List Char) (capital : Bool)
    (precision : Option Nat) (x : Binary64) : Shown :=
  let word (t : String) : Text := if capital then Text.ofString t.toUpper else t
  match x with
  | .nan => Shown.ofNumber f false Text.empty (word "nan")
  | .infinite isNegative => Shown.ofNumber f isNegative Text.empty (word "inf")
  | .finite isNegative units =>
    Shown.ofNumber f isNegative Text.empty
      (word (String.ofList (style f.isAlternate (precision.getD usualPlaces) units)))

/-- A value as a float. -/
def floatOf : Value → Except Fault Binary64
  | .float x => .ok x
  | .bool b => .ok (if b then .ofRatio false 1 1 else .zero)
  | .int i =>
    match Binary64.ofInt? i with
    | some x => .ok x
    | none => .error .numberTooLarge
  | _ => .error .formatMismatch

/-- A single code point: a text that is one, or its number. -/
def showPoint : Value → Except Fault Shown
  | .text ⟨[p]⟩ => .ok { body := ⟨[p]⟩ }
  | .int i =>
    if 0 ≤ i ∧ i < 0x110000 then .ok { body := ⟨[CodePoint.ofNat i.toNat]⟩ }
    else .error .numberTooLarge
  | .bool b => .ok { body := ⟨[CodePoint.ofNat (if b then 1 else 0)]⟩ }
  | _ => .error .formatMismatch

/-- Text cut to a precision. -/
def showText (precision : Option Nat) (t : Text) : Shown :=
  { body := match precision with
      | some n => t.take n
      | none => t }

/-- Text in ASCII, all other code points escaped. -/
def inAscii (t : Text) : Text :=
  Text.concat (t.points.map fun p => if p.isAscii then ⟨[p]⟩ else Text.escapedPoint p)

/-- The fault of a letter that is none of the known ones; where it stands is given. -/
def unknownLetter (letter : CodePoint) (index : Nat) : Fault :=
  let shown : Text := if 31 ≤ letter.val && letter.val ≤ 126 then ⟨[letter]⟩ else "?"
  .unfillable
    ("unsupported format character '" ++ shown ++ "' (0x" ++ Text.hex 1 letter.val ++
      ") at index " ++ Text.ofNat index)

/-- An argument as a letter shows it. -/
def showAs (f : Flags) (precision : Option Nat) (letter : CodePoint) (index : Nat) (v : Value) :
    Except Fault Shown :=
  match letter.toChar? with
  | some 's' => .ok (showText precision v.display)
  | some 'r' => .ok (showText precision v.literal)
  | some 'a' => .ok (showText precision (inAscii v.literal))
  | some 'c' => showPoint v
  | some 'd' | some 'i' | some 'u' =>
    showInteger f 10 Text.empty false precision <$> wholeNumber v
  | some 'o' => showInteger f 8 "0o" false precision <$> exactNumber v
  | some 'x' => showInteger f 16 "0x" false precision <$> exactNumber v
  | some 'X' => showInteger f 16 "0X" true precision <$> exactNumber v
  | some c =>
    match floatStyle? c with
    | some style => showFloat f style c.isUpper precision <$> floatOf v
    | none => .error (unknownLetter letter index)
  | none => .error (unknownLetter letter index)

/-! ## 4. The whole placeholder -/

/-- Fills the placeholder whose percent sign stands before the given code points: its text, what
stands behind it, and the arguments that are left.  `index` is where the given code points begin. -/
def fill (index : Nat) (ps : List CodePoint) (a : Arguments) :
    Except Fault (Text × List CodePoint × Arguments) := do
  let (rest, a) ← readName ps a
  let flags := Flags.ofPoints (rest.takeWhile isFlag)
  let (width, rest, a) ← readMeasure widthLimit "width" (rest.dropWhile isFlag) a
  let (precision, rest, a) ← readPrecision rest a
  let rest := if rest.head?.any isSizeMark then rest.drop 1 else rest
  match rest with
  | [] => throw (.unfillable "incomplete format")
  | letter :: behind =>
    let (v, a) ← a.take
    let shown ← showAs flags precision letter (index + ps.length - rest.length) v
    let width := width.getD 0
    let flags := { flags with isLeft := flags.isLeft || width < 0 }
    return (shown.fit flags width.natAbs, behind, a)

end Placeholder

end WorkflowGate
