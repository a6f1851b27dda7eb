/-
# Blank text

Which code points count as white space, and what is left of a text once they are cut off at both
ends.  The set is Unicode's white space together with the four ASCII separators `0x1C` to `0x1F`;
the zero-width space and the byte order mark are not in it.

* `isBlank_of_isWhitespace`: what the standard library calls white space is blank here too.
* `strip_eq_empty_iff`: nothing is left exactly when every code point is blank.
-/
import WorkflowGate.Text.Ranges

namespace WorkflowGate

namespace CodePoint

/-- The blank code points. -/
def blankRanges : Ranges :=
  [(0x09, 0x0D), (0x1C, 0x20), (0x85, 0x85), (0xA0, 0xA0), (0x1680, 0x1680), (0x2000, 0x200A),
   (0x2028, 0x2029), (0x202F, 0x202F), (0x205F, 0x205F), (0x3000, 0x3000)]

/-- White space. -/
def isBlank (p : CodePoint) : Bool := blankRanges.covers p.val

/-- White space of the standard library is blank. -/
theorem isBlank_of_isWhitespace {c : Char} (h : c.isWhitespace = true) :
    (ofChar c).isBlank = true := by
  have h : ((c = ' ' ∨ c = '\t') ∨ c = '\r') ∨ c = '\n' := by
    simpa [Char.isWhitespace] using h
  rcases h with ((rfl | rfl) | rfl) | rfl <;> decide +kernel

end CodePoint

namespace Text

/-- The text without the code points at its start and end that satisfy the test. -/
def trimBy (test : CodePoint → Bool) (t : Text) : Text :=
  ⟨((t.points.dropWhile test).reverse.dropWhile test).reverse⟩

/-- The text without blank code points at its start and end. -/
def strip (t : Text) : Text := t.trimBy CodePoint.isBlank

/-- Nothing but blank code points. -/
def isBlank (t : Text) : Bool := t.points.all CodePoint.isBlank

/-- Trimming leaves nothing exactly when every code point satisfies the test. -/
theorem trimBy_eq_empty_iff (test : CodePoint → Bool) (t : Text) :
    t.trimBy test = empty ↔ t.points.all test = true := by
  have key : ∀ l : List CodePoint, l.dropWhile test = [] ↔ ∀ p ∈ l, test p = true := by
    intro l
    induction l with
    | nil => simp
    | cons p rest ih => by_cases h : test p = true <;> simp [h, ih]
  cases t with
  | mk l =>
    simp only [trimBy, empty, Text.mk.injEq, List.reverse_eq_nil_iff, key, List.mem_reverse,
      List.all_eq_true]
    constructor
    · intro h p hp
      by_cases hd : p ∈ l.dropWhile test
      · exact h p hd
      · have hs : p ∈ l.takeWhile test ++ l.dropWhile test := by
          rw [List.takeWhile_append_dropWhile]; exact hp
        rcases List.mem_append.mp hs with h1 | h1
        · exact List.all_eq_true.mp List.all_takeWhile p h1
        · exact absurd h1 hd
    · intro h p hp
      exact h p ((List.dropWhile_sublist test).subset hp)

/-- **Stripping leaves nothing exactly when the text is blank.** -/
theorem strip_eq_empty_iff (t : Text) : t.strip = empty ↔ t.isBlank = true :=
  trimBy_eq_empty_iff _ t

end Text

end WorkflowGate
