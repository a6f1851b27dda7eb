/-
# The scheme of an absolute address

An absolute address begins with a word for its scheme, a colon and two slashes.  The word is asked to be
there and to be spelled as such words are; what it says decides nothing but whether a port is the usual
one and is left out.  So an absolute address stays one under any other scheme (`Spells.respell`).

* `cutScheme_of_isScheme`, `isScheme_of_cutScheme`: the scheme is the word before the first colon;
* `cut_absolute`: an address is cut into the same parts whatever its scheme is;
* `ofParts_eq_ok_iff`: what is read from the parts of an address that names a host;
* `Spells.exists_absolute`, `Spells.respell`: **what an absolute address looks like, and that any other
  scheme would do**.
-/
import WorkflowGate.Proofs.Result
import WorkflowGate.Url.Basic

namespace WorkflowGate.Url

open Result

/-! ## 1. Absolute addresses -/

/-- The text spells an address with a scheme and with a host that can be shown. -/
structure Spells (t : Text) (u : Url) : Prop where
  read : Url.read t = .ok u
  scheme : u.scheme ≠ Text.empty
  host : u.host ≠ Text.empty
  legible : hostProblem? u.host = none

/-- A word for a scheme: a letter, and then letters, digits, plus signs, minus signs and points. -/
def IsScheme (t : Text) : Prop :=
  ∃ p rest, t.points = p :: rest ∧ p.isAsciiLetter = true ∧ ∀ q ∈ rest, isSchemePoint q = true

/-- A scheme, a colon, two slashes, and what follows them. -/
def absolute (scheme rest : Text) : Text := scheme ++ Text.ofString "://" ++ rest

/-- **The test for absolute addresses passes exactly where the text without blanks around it spells
one.** -/
theorem isAbsolute_iff (t : Text) : isAbsolute t = true ↔ ∃ u, Spells t.strip u := by
  have hempty (t : Text) : t.isEmpty = false ↔ t ≠ Text.empty := by
    rw [← Bool.not_eq_true, Text.isEmpty_iff]
  rw [isAbsolute]
  cases hread : read t.strip with
  | error f =>
    refine iff_of_false Bool.false_ne_true ?_
    rintro ⟨u, h, -⟩
    cases hread.symm.trans h
  | ok u =>
    simp only [Bool.and_eq_true, Bool.not_eq_true', Option.isNone_iff_eq_none, hempty]
    constructor
    · rintro ⟨⟨hscheme, hhost⟩, hlegible⟩
      exact ⟨u, hread, hscheme, hhost, hlegible⟩
    · rintro ⟨u', h, hscheme, hhost, hlegible⟩
      cases hread.symm.trans h
      exact ⟨⟨hscheme, hhost⟩, hlegible⟩

/-! ## 2. Cutting -/

/-- **A word for a scheme before a colon is cut off as the scheme.** -/
theorem cutScheme_of_isScheme {scheme : Text} (h : IsScheme scheme) (rest : Text) :
    cutScheme (scheme ++ Text.ofString ":" ++ rest) = (scheme, rest) := by
  obtain ⟨ps⟩ := scheme
  obtain ⟨p, word, hps, hletter, hword⟩ := h
  obtain rfl : ps = p :: word := hps
  obtain ⟨qs⟩ := rest
  have htext : (⟨p :: word⟩ : Text) ++ Text.ofString ":" ++ (⟨qs⟩ : Text) =
      ⟨p :: (word ++ CodePoint.ofChar ':' :: qs)⟩ :=
    congrArg Text.mk (List.append_cons (p :: word) _ qs).symm
  have htake : (word ++ CodePoint.ofChar ':' :: qs).takeWhile isSchemePoint = word := by
    rw [List.takeWhile_append_of_pos hword, List.takeWhile_cons_of_neg (by decide), List.append_nil]
  rw [htext, cutScheme]
  simp [hletter, htake, Text.drop]

/-- Where a scheme is cut off, the text begins with it and a colon. -/
theorem isScheme_of_cutScheme {t : Text} (h : (cutScheme t).1 ≠ Text.empty) :
    IsScheme (cutScheme t).1 ∧ t = (cutScheme t).1 ++ Text.ofString ":" ++ (cutScheme t).2 := by
  obtain ⟨ps⟩ := t
  cases ps with
  | nil => exact absurd rfl h
  | cons p rest =>
    cases hletter : p.isAsciiLetter with
    | false =>
      -- no word begins here, and an empty one before a colon is none
      refine absurd ?_ h
      rw [cutScheme]
      simp only [hletter, Bool.false_eq_true, if_false]
      split <;> rfl
    | true =>
      obtain ⟨word, after, rfl, htake⟩ : ∃ word after, rest = word ++ after ∧
          rest.takeWhile isSchemePoint = word :=
        ⟨_, _, List.takeWhile_append_dropWhile.symm, rfl⟩
      have hword : ∀ q ∈ word, isSchemePoint q = true := fun q hq =>
        List.all_eq_true.mp List.all_takeWhile q (htake ▸ hq)
      have hcut : cutScheme ⟨p :: (word ++ after)⟩ =
          if after.head? = some (CodePoint.ofChar ':') then (⟨p :: word⟩, ⟨after.drop 1⟩)
          else (Text.empty, ⟨p :: (word ++ after)⟩) := by
        simp [cutScheme, hletter, htake, Text.drop]
      by_cases hcolon : after.head? = some (CodePoint.ofChar ':')
      · rw [hcut, if_pos hcolon]
        obtain ⟨more, rfl⟩ := List.head?_eq_some_iff.mp hcolon
        refine ⟨⟨p, word, rfl, hletter, hword⟩, ?_⟩
        exact congrArg Text.mk (List.append_cons (p :: word) _ more)
      · rw [hcut, if_neg hcolon] at h
        exact absurd rfl h

/-- A text is cut behind a beginning that does not hold the separator. -/
theorem cutAt_append {t : Text} {separator : CodePoint} (h : ∀ p ∈ t.points, p ≠ separator)
    (rest : Text) :
    (t ++ rest).cutAt separator = (t ++ (rest.cutAt separator).1, (rest.cutAt separator).2) := by
  obtain ⟨ps⟩ := t
  obtain ⟨qs⟩ := rest
  have htake : (ps ++ qs).takeWhile (· ≠ separator) = ps ++ qs.takeWhile (· ≠ separator) :=
    List.takeWhile_append_of_pos fun p hp => decide_eq_true (h p hp)
  have hdrop : (ps ++ qs).drop (ps ++ qs.takeWhile (· ≠ separator)).length =
      qs.drop (qs.takeWhile (· ≠ separator)).length := by
    rw [List.length_append, List.drop_append, List.drop_eq_nil_of_le (Nat.le_add_right _ _),
      Nat.add_sub_cancel_left, List.nil_append]
  simp only [Text.cutAt, Text.points_append, htake, hdrop]
  split <;> rfl

/-- What is cut off stands at the beginning. -/
theorem prefix_cutAt (t : Text) (separator : CodePoint) :
    ∃ tail, t = (t.cutAt separator).1 ++ tail := by
  unfold Text.cutAt
  dsimp only
  split
  · exact ⟨Text.empty, (congrArg Text.mk (List.append_nil _)).symm⟩
  · exact ⟨⟨t.points.dropWhile (· ≠ separator)⟩,
      congrArg Text.mk List.takeWhile_append_dropWhile.symm⟩

/-- The parts of an address, given its scheme and what follows the two slashes. -/
def partsBehind (scheme rest : Text) : Parts :=
  let front := rest.cutAt ('#' : Char)
  let authority : Text := ⟨front.1.points.takeWhile fun p => !(p.val = 0x2F || p.val = 0x3F)⟩
  let path := (front.1.drop authority.length).cutAt ('?' : Char)
  ⟨scheme, authority, path.1, path.2, front.2⟩

theorem IsScheme.isSchemePoint {scheme : Text} (h : IsScheme scheme) :
    ∀ p ∈ scheme.points, isSchemePoint p = true := by
  obtain ⟨p, word, hpoints, hletter, hword⟩ := h
  rw [hpoints]
  refine List.forall_mem_cons.mpr ⟨?_, hword⟩
  simp [Url.isSchemePoint, hletter]

/-- **An absolute address is cut into the same parts whatever its scheme is.** -/
theorem cut_absolute {scheme : Text} (h : IsScheme scheme) (rest : Text) :
    cut (absolute scheme rest) = partsBehind scheme rest := by
  have hhash : ∀ p ∈ (scheme ++ Text.ofString "://").points, p ≠ CodePoint.ofChar '#' := by
    rintro p hp rfl
    rcases List.mem_append.mp hp with hp | hp
    · exact absurd (h.isSchemePoint _ hp) (by decide)
    · exact absurd hp (by decide)
  have hslashes (front : Text) : scheme ++ Text.ofString "://" ++ front =
      scheme ++ Text.ofString ":" ++ (Text.ofString "//" ++ front) := by
    rw [Text.append_assoc, Text.append_assoc]
    rfl
  have hstarts (front : Text) : (Text.ofString "//" ++ front).startsWith (Text.ofString "//") = true :=
    List.isPrefixOf_iff_prefix.mpr (List.prefix_append _ _)
  rw [cut, absolute, cutAt_append hhash]
  dsimp only
  rw [hslashes, cutScheme_of_isScheme h]
  dsimp only
  rw [if_pos (hstarts _)]
  rfl

/-! ## 3. Reading the parts -/

/-- The parts, their scheme apart, are those of an address that names a host. -/
structure Parts.NamesHost (p : Parts) (u : Url) : Prop where
  user : escape (isPlain userEscapes) (cutAuthority p.authority).1 = .ok u.user
  host : readHost (cutAuthority p.authority).2.1 = .ok u.host
  named : u.host ≠ Text.empty
  path : pathFits p.path true true = true
  written : escape (isPlain pathEscapes) (resolvePath p.path) = .ok u.path
  query : p.query.mapM (escape (isPlain queryEscapes)) = .ok u.query
  fragment : p.fragment.mapM (escape (isPlain fragmentEscapes)) = .ok u.fragment

/-- **What is read from the parts of an address that names a host.**  The scheme matters to the port
alone. -/
theorem ofParts_eq_ok_iff {p : Parts} {u : Url} (hhost : u.host ≠ Text.empty) :
    ofParts p = .ok u ↔ u.scheme = p.scheme.toAsciiLower ∧
      readPort p.scheme (cutAuthority p.authority).2.2 = .ok u.port ∧ p.NamesHost u := by
  -- where there is a host there is an authority, so the path must fit one and is resolved
  have hauthority {user host : Text} {port : Option Int} (h : host ≠ Text.empty) :
      (!user.isEmpty || !host.isEmpty || port.isSome) = true := by
    simp [Bool.eq_false_iff, h]
  unfold ofParts
  constructor
  · intro h
    obtain ⟨user, huser, h⟩ := bind_eq_ok_iff.mp h
    obtain ⟨host, hread, h⟩ := bind_eq_ok_iff.mp h
    obtain ⟨port, hport, h⟩ := bind_eq_ok_iff.mp h
    extract_lets scheme hasScheme hasAuthority rest at h
    split at h
    · cases h
    next hfits =>
      obtain ⟨path, hpath, h⟩ := bind_eq_ok_iff.mp h
      obtain ⟨query, hquery, h⟩ := bind_eq_ok_iff.mp h
      obtain ⟨fragment, hfragment, h⟩ := bind_eq_ok_iff.mp h
      cases h
      have hthere : hasAuthority = true := hauthority hhost
      rw [hthere, Bool.not_eq_true', Bool.not_eq_false] at hfits
      have hrest : rest = resolvePath p.path := by simp [rest, hthere]
      rw [hrest] at hpath
      exact ⟨rfl, hport, huser, hread, hhost, hfits, hpath, hquery, hfragment⟩
  · rintro ⟨hscheme, hport, h⟩
    refine bind_eq_ok_iff.mpr ⟨_, h.user, bind_eq_ok_iff.mpr ⟨_, h.host,
      bind_eq_ok_iff.mpr ⟨_, hport, ?_⟩⟩⟩
    extract_lets scheme hasScheme hasAuthority rest
    have hthere : hasAuthority = true := hauthority hhost
    have hrest : rest = resolvePath p.path := by simp [rest, hthere]
    have hfits : pathFits p.path hasScheme hasAuthority = true := by
      rw [hthere]
      exact h.path
    rw [if_neg (by rw [hfits]; exact Bool.false_ne_true)]
    refine bind_eq_ok_iff.mpr ⟨_, by rw [hrest]; exact h.written, bind_eq_ok_iff.mpr ⟨_, h.query,
      bind_eq_ok_iff.mpr ⟨_, h.fragment, ?_⟩⟩⟩
    rw [show scheme = u.scheme from hscheme.symm]
    rfl

/-- Whether a port can be read does not depend on the scheme. -/
theorem succeeds_readPort_iff (scheme port : Text) :
    Succeeds (readPort scheme port) ↔ port.isEmpty = true ∨ Numeral.readInteger? port ≠ none := by
  unfold readPort
  cases port.isEmpty with
  | true => simp
  | false => cases Numeral.readInteger? port <;> simp

/-- The parts under another scheme. -/
theorem exists_ofParts_respelled {p : Parts} {u : Url} (h : ofParts p = .ok u)
    (hhost : u.host ≠ Text.empty) (other : Text) :
    ∃ u', ofParts { p with scheme := other } = .ok u' ∧ u'.scheme = other.toAsciiLower ∧
      u'.host = u.host := by
  obtain ⟨-, hport, hnames⟩ := (ofParts_eq_ok_iff hhost).mp h
  obtain ⟨port, hport⟩ := (succeeds_readPort_iff other _).mpr ((succeeds_readPort_iff _ _).mp ⟨_, hport⟩)
  let u' : Url := { u with scheme := other.toAsciiLower, port := port }
  have hhost' : u'.host ≠ Text.empty := hhost
  refine ⟨u', (ofParts_eq_ok_iff hhost').mpr ⟨rfl, hport, ?_⟩, rfl, rfl⟩
  exact ⟨hnames.user, hnames.host, hhost, hnames.path, hnames.written, hnames.query,
    hnames.fragment⟩

/-! ## 4. Any scheme would do -/

theorem read_eq_ok_iff {t : Text} {u : Url} :
    read t = .ok u ↔ t.length ≤ lengthLimit ∧ t.points.any isControl = false ∧
      ofParts (cut t) = .ok u := by
  rw [read, ← Nat.not_lt]
  cases t.points.any isControl <;> by_cases hlength : lengthLimit < t.length <;> simp [hlength]

theorem IsScheme.ne_empty {scheme : Text} (h : IsScheme scheme) : scheme ≠ Text.empty := by
  rintro rfl
  obtain ⟨p, word, hpoints, -⟩ := h
  cases hpoints

theorem toAsciiLower_eq_empty_iff {t : Text} : t.toAsciiLower = Text.empty ↔ t = Text.empty := by
  obtain ⟨ps⟩ := t
  simp [Text.toAsciiLower, Text.empty]

theorem isControl_of_isSchemePoint {p : CodePoint} (h : isSchemePoint p = true) :
    isControl p = false := by
  simp only [isSchemePoint, CodePoint.isAsciiLetter, CodePoint.isAsciiDigit, Bool.or_eq_true,
    Bool.and_eq_true, decide_eq_true_eq] at h
  simp only [isControl, Bool.or_eq_false_iff, decide_eq_false_iff_not]
  omega

/-- The beginning of an absolute address holds no control codes. -/
theorem any_isControl_absolute {scheme : Text} (h : IsScheme scheme) (rest : Text) :
    (absolute scheme rest).points.any isControl = rest.points.any isControl := by
  have hword : scheme.points.any isControl = false :=
    List.any_eq_false.mpr fun p hp => by simp [isControl_of_isSchemePoint (h.isSchemePoint p hp)]
  have hslashes : (Text.ofString "://").points.any isControl = false := by decide
  rw [absolute, Text.points_append, Text.points_append, List.any_append, List.any_append, hword,
    hslashes, Bool.false_or, Bool.false_or]

namespace Spells

variable {t : Text} {u : Url}

/-- **An absolute address begins with a word for its scheme, a colon and two slashes.** -/
theorem exists_absolute (h : Spells t u) :
    ∃ scheme rest, IsScheme scheme ∧ t = absolute scheme rest ∧ u.scheme = scheme.toAsciiLower := by
  obtain ⟨-, -, hparts⟩ := read_eq_ok_iff.mp h.read
  obtain ⟨hscheme, -, hnames⟩ := (ofParts_eq_ok_iff h.host).mp hparts
  obtain ⟨tail, htail⟩ := prefix_cutAt t ('#' : Char)
  rcases hfront : t.cutAt ('#' : Char) with ⟨front, fragment⟩
  rw [hfront] at htail
  rcases hcut : cutScheme front with ⟨scheme, rest⟩
  have hparts : (cut t).scheme = scheme ∧
      (rest.startsWith "//" = false → (cut t).authority = Text.empty) := by
    rw [cut, hfront]
    dsimp only
    rw [hcut]
    refine ⟨rfl, fun hnone => ?_⟩
    dsimp only
    rw [hnone]
    rfl
  obtain ⟨hword, hspelled⟩ : IsScheme scheme ∧ front = scheme ++ Text.ofString ":" ++ rest := by
    have hword := isScheme_of_cutScheme (t := front)
    rw [hcut] at hword
    refine hword fun hempty => h.scheme ?_
    rw [hscheme, hparts.1, toAsciiLower_eq_empty_iff]
    exact hempty
  have hslashes : rest.startsWith "//" = true := by
    rw [← Bool.not_eq_false]
    intro hnone
    -- without two slashes there is no authority, and so no host
    have hread := hnames.host
    rw [hparts.2 hnone] at hread
    exact h.host (Except.ok.inj hread).symm
  obtain ⟨more, hmore⟩ := List.isPrefixOf_iff_prefix.mp hslashes
  obtain rfl : rest = Text.ofString "//" ++ ⟨more⟩ := congrArg Text.mk hmore.symm
  refine ⟨scheme, ⟨more⟩ ++ tail, hword, ?_, by rw [hscheme, hparts.1]⟩
  rw [htail, hspelled, absolute]
  simp only [Text.append_assoc]
  rfl

/-- **Under any other scheme the rest of an absolute address is one as well**, at the same host, unless
that makes it too long. -/
theorem respell {scheme rest : Text} (h : Spells (absolute scheme rest) u) (hscheme : IsScheme scheme)
    {other : Text} (hother : IsScheme other) (hlength : (absolute other rest).length ≤ lengthLimit) :
    ∃ u', Spells (absolute other rest) u' ∧ u'.scheme = other.toAsciiLower ∧ u'.host = u.host := by
  obtain ⟨-, hcontrol, hparts⟩ := read_eq_ok_iff.mp h.read
  rw [cut_absolute hscheme] at hparts
  obtain ⟨u', hread, hword, hhost⟩ := exists_ofParts_respelled hparts h.host other
  refine ⟨u', ⟨read_eq_ok_iff.mpr ⟨hlength, ?_, ?_⟩, ?_, ?_, ?_⟩, hword, hhost⟩
  · rw [any_isControl_absolute hother, ← any_isControl_absolute hscheme, hcontrol]
  · rw [cut_absolute hother]
    exact hread
  · rw [hword, ne_eq, toAsciiLower_eq_empty_iff]
    exact hother.ne_empty
  · rw [hhost]
    exact h.host
  · rw [hhost]
    exact h.legible

end Spells

end WorkflowGate.Url
