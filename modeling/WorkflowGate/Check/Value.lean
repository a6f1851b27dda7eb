/-
# What a form field holds

Tests on single values: whether something is there at all, whether it is worked out only when the
workflow runs, and whether it is a number or an address.

* `isBlank_of_isMissing`: what is missing is blank;
* `not_isBlank_of_isExpression`: an expression is not blank.
-/
import WorkflowGate.Url.Basic

namespace WorkflowGate

namespace Value

/-- Is nothing there?  Null and the empty text count as nothing. -/
def isMissing : Value → Bool
  | null => true
  | text t => t.isEmpty
  | _ => false

/-- Is nothing there but white space? -/
def isBlank : Value → Bool
  | null => true
  | text t => t.isBlank
  | _ => false

/-- Is the value worked out when the workflow runs?  Such a text begins with an equals sign or holds
two opening braces. -/
def isExpression : Value → Bool
  | text t => t.startsWith "=" || t.contains "\x7b\x7b"
  | _ => false

/-- The number that a value is or spells, if any; a truth value is none.  An integer beyond the
range of floats is a fault. -/
def asNumber : Value → Except Fault (Option Binary64)
  | int i =>
    match Binary64.ofInt? i with
    | some x => .ok (some x)
    | none => .error .numberTooLarge
  | float x => .ok (some x)
  | text t => .ok ((Numeral.readLenient? t.strip).map Numeral.toBinary64)
  | _ => .ok none

/-- Is the value the text of an absolute address? -/
def isUrl : Value → Bool
  | text t => Url.isAbsolute t
  | _ => false

/-- Is the first number greater than the second one?  Truth values count as numbers here, and NaN is
greater than nothing and nothing greater than it; whatever is no number cannot be compared. -/
def exceeds (v limit : Value) : Except Fault Bool :=
  if !v.isNumeric then .error (.incomparable v.kindWord)
  else if !limit.isNumeric then .error (.incomparable limit.kindWord)
  else
    match v.place?, limit.place? with
    | some a, some b => .ok (b.lt a)
    | _, _ => .ok false

/-- The number as a float. -/
def toFloat : Value → Except Fault Binary64
  | float x => .ok x
  | int i =>
    match Binary64.ofInt? i with
    | some x => .ok x
    | none => .error .numberTooLarge
  | bool b => .ok (if b then .ofRatio false 1 1 else .zero)
  | v => .error (.notANumber v.kindWord)

/-- What is missing is blank. -/
theorem isBlank_of_isMissing {v : Value} (h : v.isMissing = true) : v.isBlank = true := by
  cases v <;> simp_all [isMissing, isBlank, Text.isBlank, Text.empty]

/-- An expression is not blank. -/
theorem not_isBlank_of_isExpression {v : Value} (h : v.isExpression = true) :
    v.isBlank = false := by
  cases v with
  | text t =>
    rw [Bool.eq_false_iff]
    intro hb
    simp only [isExpression, Bool.or_eq_true] at h
    simp only [isBlank, Text.isBlank, List.all_eq_true] at hb
    rcases h with h | h
    · have hm : (CodePoint.ofChar '=') ∈ t.points :=
        (List.isPrefixOf_iff_prefix.mp h).subset (by decide)
      exact absurd (hb _ hm) (by decide)
    · have hm : (CodePoint.ofChar '\x7b') ∈ t.points :=
        ((Text.contains_iff _ _).mp h).subset (by decide)
      exact absurd (hb _ hm) (by decide)
  | _ => simp [isExpression] at h

end Value

end WorkflowGate
