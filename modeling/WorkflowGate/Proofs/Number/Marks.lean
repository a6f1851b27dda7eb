/-
# What a numeral is written with

A text that spells a number consists of ASCII digits and letters, signs and a point, once digits of
other scripts have been replaced, underscores dropped and the white space around it cut off.  So a
text with any other mark in it spells none, whatever else stands there.

* `isMark_of_read?`: the bare grammar uses no other marks;
* `isMark_of_readLenient?`: neither does the wider one, but for underscores;
* `Value.asNumber_of_mem`: **a text with another mark in it spells no number**.
-/
import WorkflowGate.Check.Value

namespace WorkflowGate

/-- Only letters have letters for their small forms. -/
theorem CodePoint.isAsciiLetter_of_toAsciiLower {p : CodePoint}
    (h : p.toAsciiLower.isAsciiLetter = true) : p.isAsciiLetter = true := by
  unfold toAsciiLower at h
  split at h
  next hcapital =>
    rw [isAsciiLetter, hcapital]
    rfl
  next => exact h

/-- Stripping keeps what is not blank. -/
theorem Text.mem_points_strip {t : Text} {p : CodePoint} (hp : p ∈ t.points)
    (hblank : p.isBlank = false) : p ∈ t.strip.points := by
  have hkeep {l : List CodePoint} (hl : p ∈ l) : p ∈ l.dropWhile CodePoint.isBlank := by
    rw [← List.takeWhile_append_dropWhile (p := CodePoint.isBlank) (l := l)] at hl
    rcases List.mem_append.mp hl with hl | hl
    · rw [List.all_eq_true.mp List.all_takeWhile p hl] at hblank
      cases hblank
    · exact hl
  exact List.mem_reverse.mpr (hkeep (List.mem_reverse.mpr (hkeep hp)))

namespace Numeral

/-! ## 1. The bare grammar -/

/-- The marks of a numeral: ASCII digits and letters, signs and the point. -/
def isMark (p : CodePoint) : Bool :=
  p.isAsciiDigit || p.isAsciiLetter || p = ('+' : Char) || p = ('-' : Char) || p = ('.' : Char)

theorem isMark_of_isAsciiDigit {p : CodePoint} (h : p.isAsciiDigit = true) : isMark p = true := by
  simp [isMark, h]

theorem isMark_of_isAsciiLetter {p : CodePoint} (h : p.isAsciiLetter = true) : isMark p = true := by
  simp [isMark, h]

/-- What is not split off as a sign stays. -/
theorem mem_splitSign {ps : List CodePoint} {p : CodePoint} (hp : p ∈ ps) :
    isMark p = true ∨ p ∈ (splitSign ps).2 := by
  cases ps with
  | nil => cases hp
  | cons q rest =>
    rw [splitSign]
    by_cases hminus : q = ('-' : Char)
    · rw [if_pos hminus]
      exact (List.mem_cons.mp hp).imp_left fun h => by rw [h, hminus]; rfl
    by_cases hplus : q = ('+' : Char)
    · rw [if_neg hminus, if_pos hplus]
      exact (List.mem_cons.mp hp).imp_left fun h => by rw [h, hplus]; rfl
    · rw [if_neg hminus, if_neg hplus]
      exact .inr hp

/-- The digits that are split off are digits. -/
theorem isMark_of_mem_splitDigits {ps : List CodePoint} {p : CodePoint} (hp : p ∈ ps) :
    isMark p = true ∨ p ∈ (splitDigits ps).2 := by
  rw [← splitDigits_append ps] at hp
  exact (List.mem_append.mp hp).imp_left fun h =>
    isMark_of_isAsciiDigit (List.all_eq_true.mp List.all_takeWhile p h)

theorem isMark_of_readExponent? {ps : List CodePoint} {e : Int} (h : readExponent? ps = some e) :
    ∀ p ∈ ps, isMark p = true := by
  cases ps with
  | nil => exact fun p hp => (nomatch hp)
  | cons q rest =>
    rw [readExponent?] at h
    by_cases hletter : q = ('e' : Char) ∨ q = ('E' : Char)
    · simp only [hletter, if_true] at h
      by_cases hdigits : (splitSign rest).2.isEmpty = true ∨
          ¬ (splitSign rest).2.all CodePoint.isAsciiDigit = true
      · rw [if_pos hdigits] at h
        cases h
      intro p hp
      rcases List.mem_cons.mp hp with rfl | hp
      · rcases hletter with rfl | rfl <;> decide
      rcases mem_splitSign hp with hmark | hp
      · exact hmark
      · have hall := Decidable.of_not_not (not_or.mp hdigits).2
        exact isMark_of_isAsciiDigit (List.all_eq_true.mp hall p hp)
    · rw [if_neg hletter] at h
      cases h

theorem isMark_of_readDecimal? {negative : Bool} {ps : List CodePoint} {x : Numeral}
    (h : readDecimal? negative ps = some x) : ∀ p ∈ ps, isMark p = true := by
  have hrest : ∃ fraction rest, (∀ p ∈ (splitDigits ps).2, isMark p = true ∨ p ∈ rest) ∧
      (if (splitDigits ps).1.isEmpty ∧ fraction.isEmpty then none
        else (readExponent? rest).map fun e =>
          decimal negative ((splitDigits ps).1 ++ fraction) (e - fraction.length)) = some x := by
    rw [readDecimal?] at h
    cases hafter : (splitDigits ps).2 with
    | nil =>
      simp only [hafter] at h
      exact ⟨[], [], fun p hp => (nomatch hp), h⟩
    | cons q rest =>
      by_cases hpoint : q = ('.' : Char)
      · simp only [hafter, if_pos hpoint] at h
        refine ⟨_, _, fun p hp => ?_, h⟩
        rcases List.mem_cons.mp hp with rfl | hp
        · exact .inl (by rw [hpoint]; rfl)
        · exact isMark_of_mem_splitDigits hp
      · simp only [hafter, if_neg hpoint] at h
        exact ⟨_, _, fun p hp => .inr hp, h⟩
  obtain ⟨fraction, rest, hbehind, h⟩ := hrest
  split at h
  · cases h
  obtain ⟨e, he, -⟩ := Option.map_eq_some_iff.mp h
  intro p hp
  rcases isMark_of_mem_splitDigits hp with hmark | hp
  · exact hmark
  rcases hbehind p hp with hmark | hp
  · exact hmark
  · exact isMark_of_readExponent? he p hp

/-- **A numeral of the bare grammar has no other marks.** -/
theorem isMark_of_read? {ps : List CodePoint} {x : Numeral} (h : read? ps = some x) :
    ∀ p ∈ ps, isMark p = true := by
  intro p hp
  rcases mem_splitSign hp with hmark | hp
  · exact hmark
  have hword {word : Text} (hletters : word.points.all CodePoint.isAsciiLetter = true)
      (heq : Text.toAsciiLower ⟨(splitSign ps).2⟩ = word) : isMark p = true := by
    refine isMark_of_isAsciiLetter (CodePoint.isAsciiLetter_of_toAsciiLower ?_)
    refine List.all_eq_true.mp hletters _ ?_
    rw [← heq]
    exact List.mem_map_of_mem hp
  simp only [read?] at h
  split at h
  next hinfinity => exact hinfinity.elim (hword (by decide)) (hword (by decide))
  next =>
    split at h
    next hnan => exact hword (by decide) hnan
    next => exact isMark_of_readDecimal? h p hp

/-! ## 2. Separators and other scripts -/

/-- Nothing but underscores is dropped. -/
theorem mem_of_dropSeparators? {p : CodePoint} (hp : p ≠ ('_' : Char)) :
    ∀ {previousIsDigit : Bool} {ps qs : List CodePoint},
      dropSeparators? previousIsDigit ps = some qs → p ∈ ps → p ∈ qs := by
  intro previousIsDigit ps
  induction ps generalizing previousIsDigit with
  | nil => exact fun _ hmem => (nomatch hmem)
  | cons q rest ih =>
    intro qs h hmem
    by_cases hunderscore : q = ('_' : Char)
    · have hrest : p ∈ rest := (List.mem_cons.mp hmem).resolve_left fun heq =>
        hp (heq.trans hunderscore)
      cases rest with
      | nil => cases hrest
      | cons r rest =>
        rw [dropSeparators?, if_pos hunderscore] at h
        split at h
        · exact ih h hrest
        · cases h
    · rw [dropSeparators?.eq_def] at h
      simp only [if_neg hunderscore] at h
      obtain ⟨kept, hkept, rfl⟩ := Option.map_eq_some_iff.mp h
      rcases List.mem_cons.mp hmem with rfl | hmem
      · exact List.mem_cons_self
      · exact List.mem_cons_of_mem _ (ih hkept hmem)

/-- **A numeral has no other marks**, but for underscores and digits of other scripts. -/
theorem isMark_of_readLenient? {t : Text} {x : Numeral} (h : readLenient? t = some x)
    {p : CodePoint} (hp : p ∈ t.points) (hunderscore : toAsciiDigit p ≠ ('_' : Char)) :
    isMark (toAsciiDigit p) = true := by
  obtain ⟨ps, hps, hread⟩ := Option.bind_eq_some_iff.mp h
  exact isMark_of_read? hread _ (mem_of_dropSeparators? hunderscore hps (List.mem_map_of_mem hp))

end Numeral

/-- **A text with another mark in it spells no number.** -/
theorem Value.asNumber_of_mem {t : Text} {p : CodePoint} (hp : p ∈ t.points)
    (hblank : p.isBlank = false) (hunderscore : Numeral.toAsciiDigit p ≠ ('_' : Char))
    (hmark : Numeral.isMark (Numeral.toAsciiDigit p) = false) :
    (Value.text t).asNumber = .ok none := by
  cases hread : Numeral.readLenient? t.strip with
  | none => simp only [asNumber, hread, Option.map_none]
  | some x =>
    rw [Numeral.isMark_of_readLenient? hread (Text.mem_points_strip hp hblank) hunderscore] at hmark
    cases hmark

end WorkflowGate
