/-
# Colours in text

A terminal switches colours at a mark: escape, an opening bracket, digits and semicolons, `m`.
`Text.withoutColours` takes the marks out in one pass from left to right.

* `withoutColours_of_clean`: text without an escape stays as it is;
* `afterColour?_length`: a mark is never empty.
-/
import WorkflowGate.Text.Basic

namespace WorkflowGate.Text

/-- The code point at which a mark begins. -/
def escapePoint : CodePoint := CodePoint.ofNat 0x1B

/-- May the code point stand between bracket and end of a mark? -/
def isColourDigit (p : CodePoint) : Bool := p.isAsciiDigit || p = (';' : Char)

/-- What stands behind the digits of a mark, if it ends there. -/
def afterColourEnd? : List CodePoint → Option (List CodePoint)
  | [] => none
  | p :: rest => if p = ('m' : Char) then some rest else none

/-- What stands behind a mark, if the text begins with one. -/
def afterColour? : List CodePoint → Option (List CodePoint)
  | p :: q :: rest =>
    if p = escapePoint && q = ('[' : Char) then afterColourEnd? (rest.dropWhile isColourDigit)
    else none
  | _ => none

/-- The end of a mark is not empty. -/
theorem afterColourEnd?_length {ps rest : List CodePoint} (h : afterColourEnd? ps = some rest) :
    rest.length < ps.length := by
  cases ps with
  | nil => simp [afterColourEnd?] at h
  | cons m tail =>
    simp only [afterColourEnd?, Option.ite_none_right_eq_some, Option.some.injEq] at h
    simp [h.2]

/-- A mark is never empty. -/
theorem afterColour?_length {ps rest : List CodePoint} (h : afterColour? ps = some rest) :
    rest.length < ps.length := by
  match ps with
  | [] => simp [afterColour?] at h
  | [p] => simp [afterColour?] at h
  | p :: q :: body =>
    simp only [afterColour?, Option.ite_none_right_eq_some] at h
    have hb := afterColourEnd?_length h.2
    have hd : (body.dropWhile isColourDigit).length ≤ body.length :=
      (List.dropWhile_suffix _).length_le
    simp only [List.length_cons]
    omega

/-- The code points without the marks. -/
def dropColours (ps : List CodePoint) : List CodePoint :=
  match ps with
  | [] => []
  | p :: rest =>
    match _h : afterColour? (p :: rest) with
    | some behind => dropColours behind
    | none => p :: dropColours rest
termination_by ps.length
decreasing_by
  · exact afterColour?_length _h
  · simp

/-- The text without the marks. -/
def withoutColours (t : Text) : Text := ⟨dropColours t.points⟩

/-- Code points without an escape stay as they are. -/
theorem dropColours_of_clean (ps : List CodePoint) (h : escapePoint ∉ ps) : dropColours ps = ps := by
  induction ps with
  | nil => simp [dropColours]
  | cons p rest ih =>
    have hp : p ≠ escapePoint := fun e => h (e ▸ List.mem_cons_self)
    have hn : afterColour? (p :: rest) = none := by
      cases rest with
      | nil => rfl
      | cons q tail => simp [afterColour?, hp]
    rw [dropColours]
    split
    · rename_i behind hb
      rw [hn] at hb
      cases hb
    · rw [ih fun hm => h (List.mem_cons_of_mem _ hm)]

/-- Text without an escape stays as it is. -/
theorem withoutColours_of_clean (t : Text) (h : escapePoint ∉ t.points) : t.withoutColours = t := by
  simp [withoutColours, dropColours_of_clean _ h]

end WorkflowGate.Text
