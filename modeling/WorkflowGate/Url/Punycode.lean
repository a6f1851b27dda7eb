/-
# Punycode

Labels of internationalised domain names in ASCII: the code points beyond ASCII are written behind
the others, in ascending order, as a sequence of differences.  A difference is a number in base 36
whose digits come lowest first; a threshold that adapts to what has been written says which digit is
the last one.

Every loop here has a measure: the number that is divided, the rest of the input, or the list of
code points still to be written.

* `threshold_pos`, `threshold_le`: thresholds lie between one and twenty-six.
-/
import WorkflowGate.Text.Basic

namespace WorkflowGate.Punycode

/-! ## 1. Parameters -/

/-- The threshold of the digit at an index. -/
def threshold (index bias : Nat) : Nat := min (max (36 * (index + 1) - bias) 1) 26

theorem threshold_pos (index bias : Nat) : 0 < threshold index bias := by
  unfold threshold; omega

theorem threshold_le (index bias : Nat) : threshold index bias ≤ 26 := by
  unfold threshold; omega

/-- Scales a difference down; the result is what is left and 36 for each division. -/
def scaleDown (delta divisions : Nat) : Nat × Nat :=
  if _h : 455 < delta then scaleDown (delta / 35) (divisions + 36) else (delta, divisions)
termination_by delta
decreasing_by omega

/-- The bias after a difference; `points` is how many code points there are by then. -/
def adapt (delta points : Nat) (isFirst : Bool) : Nat :=
  let damped := if isFirst then delta / 700 else delta / 2
  let (rest, divisions) := scaleDown (damped + damped / points) 0
  divisions + 36 * rest / (rest + 38)

/-! ## 2. Reading -/

/-- The value of a digit: letters of either case, then the ten digits. -/
def digitValue? (p : CodePoint) : Option Nat :=
  if 0x41 ≤ p.val ∧ p.val ≤ 0x5A then some (p.val - 0x41)
  else if 0x61 ≤ p.val ∧ p.val ≤ 0x7A then some (p.val - 0x61)
  else if p.isAsciiDigit then some (p.val - 0x30 + 26)
  else none

/-- Reads one number: its value and how many digits it has. -/
def readNumber? (bias : Nat) : (index weight value : Nat) → List CodePoint → Option (Nat × Nat)
  | _, _, _, [] => none
  | index, weight, value, p :: rest =>
    match digitValue? p with
    | none => none
    | some d =>
      let t := threshold index bias
      if d < t then some (value + d * weight, index + 1)
      else readNumber? bias (index + 1) (weight * (36 - t)) (value + d * weight) rest

/-- A number has at least one digit. -/
theorem readNumber?_pos {bias index weight value : Nat} {ps : List CodePoint} {r : Nat × Nat}
    (h : readNumber? bias index weight value ps = some r) : 0 < r.2 := by
  fun_induction readNumber? bias index weight value ps with
  | case1 => cases h
  | case2 => cases h
  | case3 => cases h; omega
  | case4 => rename_i ih; exact ih h

/-- Reads the differences and puts in their code points.  `char` is the last code point put in and
`place` the one after its place. -/
def insertAll? (char place bias : Nat) (isFirst : Bool) (done : List Nat) (digits : List CodePoint) :
    Option (List Nat) :=
  match digits with
  | [] => some done
  | d :: rest =>
    match _h : readNumber? bias 0 1 0 (d :: rest) with
    | none => none
    | some (delta, used) =>
      let size := done.length + 1
      let char := char + (place + delta) / size
      let place := (place + delta) % size
      if char > 0x10FFFF then none
      else
        insertAll? char (place + 1) (adapt delta size isFirst) false (done.insertIdx place char)
          ((d :: rest).drop used)
termination_by digits.length
decreasing_by
  have hpos := readNumber?_pos _h
  simp only [List.length_drop, List.length_cons]
  omega

/-- The code points that a text stands for: ASCII up to the last hyphen, differences behind it.  A
hyphen that nothing stands before separates nothing; being no digit, it makes the text unreadable. -/
def decode? (t : Text) : Option Text :=
  let hyphen : CodePoint := ('-' : Char)
  let tail := (t.points.reverse.takeWhile (· ≠ hyphen)).reverse
  let basic := t.points.take (t.points.length - tail.length - 1)
  let digits := if basic.isEmpty then t.points else tail
  (insertAll? 0x80 0 72 true (basic.map Fin.val) digits).map fun ns => ⟨ns.map CodePoint.ofNat⟩

/-! ## 3. Writing -/

/-- The digit with a value. -/
def digit (d : Nat) : CodePoint := CodePoint.ofNat (if d < 26 then 0x61 + d else 0x30 + d - 26)

/-- Writes a number. -/
def writeNumber (bias index n : Nat) : List CodePoint :=
  let t := threshold index bias
  if n < t then [digit n]
  else digit (t + (n - t) % (36 - t)) :: writeNumber bias (index + 1) ((n - t) / (36 - t))
termination_by n
decreasing_by
  have hp := threshold_pos index bias
  have hle := threshold_le index bias
  have := Nat.div_le_self (n - threshold index bias) (36 - threshold index bias)
  omega

/-- What has been written, and what the next difference is counted from. -/
structure Writing where
  written : List CodePoint := []
  delta : Nat := 0
  bias : Nat := 72
  handled : Nat

/-- Passes one code point of the text while `target` is being written. -/
def Writing.pass (basicCount target : Nat) (w : Writing) (n : Nat) : Writing :=
  if n < target then { w with delta := w.delta + 1 }
  else if n = target then
    { written := w.written ++ writeNumber w.bias 0 w.delta
      delta := 0
      bias := adapt w.delta (w.handled + 1) (w.handled = basicCount)
      handled := w.handled + 1 }
  else w

/-- Writes the code points beyond ASCII, the given ones in turn; `next` is the least that has not
been considered. -/
def Writing.writeAll (ns : List Nat) (basicCount next : Nat) : List Nat → Writing → Writing
  | [], w => w
  | target :: rest, w =>
    let w := { w with delta := w.delta + (target - next) * (w.handled + 1) }
    let w := ns.foldl (Writing.pass basicCount target) w
    writeAll ns basicCount (target + 1) rest { w with delta := w.delta + 1 }

/-- Puts a number in its place in an ascending list without repetitions. -/
def insertAscending (n : Nat) : List Nat → List Nat
  | [] => [n]
  | m :: rest => if n < m then n :: m :: rest else if n = m then m :: rest else m :: insertAscending n rest

/-- A text in ASCII. -/
def encode (t : Text) : Text :=
  let ns := t.points.map Fin.val
  let basic := t.points.filter CodePoint.isAscii
  let beyond := (ns.filter (0x80 ≤ ·)).foldr insertAscending []
  let w := Writing.writeAll ns basic.length 0x80 beyond { handled := basic.length }
  let separator : List CodePoint := if basic.isEmpty then [] else [('-' : Char)]
  ⟨basic ++ separator ++ w.written⟩

end WorkflowGate.Punycode
