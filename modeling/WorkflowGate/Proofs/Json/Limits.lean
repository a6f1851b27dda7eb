/-
# What the limits of the reader refuse

Two faults of the reader are no errors of syntax: an integer with too many digits, and lists and mappings
too deep within each other.  Each has a reason in the text that one can see without reading it as JSON
(`Break.Warranted`): a long run of digits, or many opening brackets.

* `warranted_of_break`: a token at which the text breaks off has its reason there;
* `State.depth_le_of_step`, `State.step_eq_error`: how deep a token takes the machine, and why it can
  stop it;
* `State.run_eq_error`: a run stops no deeper than lists and mappings have been opened;
* `warranted_of_read`: **what stops the reader has its reason in the text**;
* `WithinLimits.read_cases`: a text without long runs of digits and without many brackets is read, or its
  syntax is at fault.
-/
import WorkflowGate.Json.Reader

namespace WorkflowGate.Json

/-! ## 1. The limits -/

/-- The code point opens a list or a mapping. -/
def opensAny (p : CodePoint) : Bool := p = ('[' : Char) || p = ('\x7b' : Char)

/-- A run of that many digits stands among the code points. -/
def HasDigits (ps : List CodePoint) (count : Nat) : Prop :=
  ∃ digits, digits <:+: ps ∧ digits.length = count ∧ ∀ p ∈ digits, p.isAsciiDigit = true

/-- The limit that a break tells of is exceeded among the code points; `limit` is that of nesting. -/
def Break.Warranted (limit : Nat) (ps : List CodePoint) : Break → Prop
  | error _ _ => True
  | integerTooLong count => Numeral.digitLimit < count ∧ HasDigits ps count
  | nestedTooDeep => limit < ps.countP opensAny

/-- No integer in the text can be too long, and nothing in it too deep within others. -/
structure WithinLimits (limit : Nat) (t : Text) : Prop where
  digits : ∀ count, HasDigits t.points count → count ≤ Numeral.digitLimit
  openings : t.points.countP opensAny ≤ limit

variable {limit : Nat}

theorem Break.Warranted.mono {why : Break} {ps qs : List CodePoint} (h : why.Warranted limit ps)
    (hsuffix : ps <:+ qs) : why.Warranted limit qs := by
  cases why with
  | error => trivial
  | integerTooLong count =>
    obtain ⟨hlong, digits, hdigits, hrun⟩ := h
    exact ⟨hlong, digits, hdigits.trans hsuffix.isInfix, hrun⟩
  | nestedTooDeep => exact Nat.lt_of_lt_of_le h (hsuffix.sublist.countP_le)

/-! ## 2. Tokens -/

namespace TokenKind

/-- The token opens a list or a mapping. -/
def opens : TokenKind → Bool
  | openList | openMapping => true
  | _ => false

/-- Why the text breaks off at the token, if it does. -/
def break? : TokenKind → Option Break
  | broken why | brokenString why => some why
  | _ => none

end TokenKind

/-- A token of a single code point breaks nothing off, and it opens something only when that does. -/
theorem mark?_eq_some {p : CodePoint} {kind : TokenKind} (h : mark? p = some kind) :
    kind.break? = none ∧ (kind.opens = true → opensAny p = true) := by
  unfold mark? at h
  unfold opensAny
  repeat' split at h
  all_goals cases h
  all_goals exact ⟨rfl, by simp_all [TokenKind.opens]⟩

/-- A word stands for a value. -/
theorem readWord?_eq_some {ps : List CodePoint} {kind : TokenKind} {length : Nat}
    (h : readWord? ps = some (kind, length)) : kind.break? = none ∧ kind.opens = false := by
  have hwords : ∀ entry ∈ words, entry.2.break? = none ∧ entry.2.opens = false := by decide
  obtain ⟨entry, hmem, hword⟩ := List.exists_of_findSome?_eq_some h
  obtain ⟨-, hkind⟩ := Option.ite_none_right_eq_some.mp hword
  cases hkind
  exact hwords entry hmem

/-- A number opens nothing, and only a long run of digits breaks it off. -/
theorem readNumber?_eq_some {ps : List CodePoint} {kind : TokenKind} {length : Nat}
    (h : readNumber? ps = some (kind, length)) :
    kind.opens = false ∧ ∀ limit why, kind.break? = some why → why.Warranted limit ps := by
  unfold readNumber? at h
  extract_lets negative body signLength ds whole rest at h
  have hwhole : whole <+: ds := by
    unfold whole
    split
    · exact List.take_prefix _ _
    · exact List.prefix_refl _
  have hbody : body <:+ ps := by
    unfold body
    split
    · exact List.drop_suffix _ _
    · exact List.suffix_refl _
  have hrun : HasDigits ps whole.length := by
    refine ⟨whole, ?_, rfl, fun p hp => ?_⟩
    · exact (hwhole.trans (List.takeWhile_prefix _)).isInfix.trans hbody.isInfix
    · exact List.all_eq_true.mp List.all_takeWhile p (hwhole.mem hp)
  clear_value whole
  rw [Option.ite_none_left_eq_some] at h
  obtain ⟨-, h⟩ := h
  dsimp only at h
  split at h
  next =>
    cases h
    exact ⟨rfl, nofun⟩
  next =>
    split at h
    next =>
      split at h
      next hlong =>
        cases h
        refine ⟨rfl, fun limit why hwhy => ?_⟩
        cases hwhy
        exact ⟨hlong, hrun⟩
      next =>
        cases h
        exact ⟨rfl, nofun⟩
    next =>
      cases h
      exact ⟨rfl, nofun⟩

/-- A word or a number opens nothing, and only a long run of digits breaks it off. -/
theorem readWord?_or_readNumber?_eq_some {ps : List CodePoint} {kind : TokenKind} {length : Nat}
    (h : (readWord? ps).or (readNumber? ps) = some (kind, length)) :
    kind.opens = false ∧ ∀ limit why, kind.break? = some why → why.Warranted limit ps := by
  rcases Option.or_eq_some_iff.mp h with hword | ⟨-, hnumber⟩
  · obtain ⟨hbreak, hopens⟩ := readWord?_eq_some hword
    refine ⟨hopens, fun limit why hwhy => ?_⟩
    rw [hbreak] at hwhy
    cases hwhy
  · exact readNumber?_eq_some hnumber

/-- A string breaks off only for its syntax. -/
theorem readString_eq_error {start offset : Nat} {pending : Option Nat} {done ps : List CodePoint}
    {why : Break} (h : readString start offset pending done ps = .error why) :
    ∃ reason place, why = .error reason place := by
  -- the string is closed, or goes on behind an escape or a plain code point; all else is broken syntax
  fun_induction readString start offset pending done ps with
  | case2 => cases h
  | case5 _ _ _ _ _ _ _ _ _ _ _ _ _ _ ih => exact ih h
  | case8 _ _ _ _ _ _ _ _ _ _ ih => exact ih h
  | case10 _ _ _ _ _ _ _ _ ih => exact ih h
  | _ =>
    cases h
    exact ⟨_, _, rfl⟩

/-- **A token at which the text breaks off has its reason there.** -/
theorem warranted_of_break {offset : Nat} {ps : List CodePoint} {token : Token} {why : Break}
    (h : token ∈ tokensFrom offset ps) (hwhy : token.kind.break? = some why) :
    why.Warranted limit ps := by
  fun_induction tokensFrom offset ps with
  | case1 offset =>
    rw [List.mem_singleton] at h
    subst h
    cases hwhy
  | case2 offset p rest hspace ih => exact (ih h).mono (List.suffix_cons p rest)
  | case3 offset p rest hspace kind hmark ih =>
    rcases List.mem_cons.mp h with rfl | h
    · rw [(mark?_eq_some hmark).1] at hwhy
      cases hwhy
    · exact (ih h).mono (List.suffix_cons p rest)
  | case4 offset rest why' hread =>
    rw [List.mem_singleton] at h
    subst h
    cases hwhy
    obtain ⟨reason, place, rfl⟩ := readString_eq_error hread
    trivial
  | case5 offset rest points after hread hspace hmark ih =>
    rcases List.mem_cons.mp h with rfl | h
    · cases hwhy
    · exact (ih h).mono ((List.drop_suffix _ _).trans (List.suffix_cons _ rest))
  | case6 offset p rest hspace hmark hquote kind length hread ih =>
    rcases List.mem_cons.mp h with rfl | h
    · exact (readWord?_or_readNumber?_eq_some hread).2 limit why hwhy
    · exact (ih h).mono ((List.drop_suffix _ _).trans (List.suffix_cons _ rest))
  | case7 =>
    rw [List.mem_singleton] at h
    subst h
    cases hwhy
    trivial

/-- Lists and mappings are opened only where a code point does. -/
theorem countP_opens_le (offset : Nat) (ps : List CodePoint) :
    (tokensFrom offset ps).countP (·.kind.opens) ≤ ps.countP opensAny := by
  fun_induction tokensFrom offset ps with
  | case1 => exact Nat.le_refl 0
  | case2 offset p rest hspace ih => exact Nat.le_trans ih (List.sublist_cons_self p rest).countP_le
  | case3 offset p rest hspace kind hmark ih =>
    rw [List.countP_cons, List.countP_cons]
    refine Nat.add_le_add ih ?_
    split
    next hopens => exact Nat.le_of_eq (if_pos ((mark?_eq_some hmark).2 hopens)).symm
    next => exact Nat.zero_le _
  | case4 => exact Nat.zero_le _
  | case5 offset rest points after hread hspace hmark ih =>
    rw [List.countP_cons_of_neg Bool.false_ne_true]
    exact Nat.le_trans ih ((List.drop_sublist _ _).trans (List.sublist_cons_self _ rest)).countP_le
  | case6 offset p rest hspace hmark hquote kind length hread ih =>
    rw [List.countP_cons_of_neg (by simp [(readWord?_or_readNumber?_eq_some hread).1])]
    exact Nat.le_trans ih ((List.drop_sublist _ _).trans (List.sublist_cons_self _ rest)).countP_le
  | case7 => exact Nat.zero_le _

/-! ## 3. The machine -/

/-- Why the machine stops at a token that it meets so deep: the text breaks off there, the token does not
fit, or it opens one list or mapping too many. -/
inductive Stops (limit depth : Nat) (token : Token) : Break → Prop
  | unfit (reason : SyntaxError) : Stops limit depth token (.error reason token.offset)
  | broken {why : Break} : token.kind.break? = some why → Stops limit depth token why
  | tooDeep : token.kind.opens = true → limit ≤ depth → Stops limit depth token .nestedTooDeep

theorem Stops.mono {depth depth' : Nat} {token : Token} {why : Break} (h : Stops limit depth token why)
    (hle : depth ≤ depth') : Stops limit depth' token why := by
  cases h with
  | unfit reason => exact .unfit reason
  | broken hbreak => exact .broken hbreak
  | tooDeep hopens hdeep => exact .tooDeep hopens (Nat.le_trans hdeep hle)

namespace State

/-- How many lists and mappings are open. -/
def depth (s : State) : Nat :=
  s.stack.length +
    match s.need with
    | .name _ _ | .colon _ _ => 1
    | _ => 0

/-- By how much a token can take the machine deeper. -/
def descent (token : Token) : Nat := if token.kind.opens then 1 else 0

/-- A value that has been read opens nothing. -/
@[simp] theorem depth_deliver (stack : List Frame) (v : Value) :
    (deliver stack v).depth = stack.length := by
  match stack with
  | [] => rfl
  | .list _ :: _ => rfl
  | .mapping _ _ :: _ => rfl

theorem nested_eq_ok {stack : List Frame} {opened s : State} (h : nested limit stack opened = .ok s) :
    s = opened := by
  unfold nested at h
  split at h
  · exact (Except.ok.inj h).symm
  · cases h

theorem nested_eq_error {stack : List Frame} {opened : State} {why : Break}
    (h : nested limit stack opened = .error why) : why = .nestedTooDeep ∧ limit ≤ stack.length := by
  unfold nested at h
  split at h
  · cases h
  next hdeep => exact ⟨(Except.error.inj h).symm, Nat.le_of_not_lt hdeep⟩

theorem depth_le_of_onValue {stack : List Frame} {token : Token} {s : State}
    (h : onValue limit stack token = .ok s) : s.depth ≤ stack.length + descent token := by
  revert h
  -- in order: the token opens something, is a value itself, or begins none
  fun_cases onValue limit stack token with
  | case1 hkind | case2 hkind =>
    intro h
    rw [nested_eq_ok h, descent, hkind]
    exact Nat.le_refl _
  | case3 | case4 | case5 | case6 | case7 =>
    rintro ⟨⟩
    rw [depth_deliver]
    exact Nat.le_add_right _ _
  | case8 | case9 | case10 => nofun

theorem stops_of_onValue {stack : List Frame} {token : Token} {why : Break}
    (h : onValue limit stack token = .error why) : Stops limit stack.length token why := by
  revert h
  fun_cases onValue limit stack token with
  | case1 hkind | case2 hkind =>
    intro h
    obtain ⟨rfl, hdeep⟩ := nested_eq_error h
    exact .tooDeep (by rw [hkind]; rfl) hdeep
  | case3 | case4 | case5 | case6 | case7 => nofun
  | case8 why' hkind | case9 why' hkind =>
    rintro ⟨⟩
    exact .broken (by rw [hkind]; rfl)
  | case10 =>
    rintro ⟨⟩
    exact .unfit _

theorem length_le_depth (s : State) : s.stack.length ≤ s.depth := Nat.le_add_right _ _

/-- **A token takes the machine deeper by at most what it opens.** -/
theorem depth_le_of_step {s s' : State} {token : Token} (h : s.step limit token = .ok s') :
    s'.depth ≤ s.depth + descent token := by
  revert h
  -- in order: the token begins a value, closes a list or a mapping, stands between the parts of one, or
  -- stops the machine
  fun_cases step limit s token with
  | case1 | case3 =>
    intro h
    exact Nat.le_trans (depth_le_of_onValue h) (Nat.add_le_add_right s.length_le_depth _)
  | case2 | case6 | case13 | case14 =>
    rintro ⟨⟩
    refine Nat.le_trans ?_ (Nat.le_add_right _ _)
    rw [depth_deliver]
    simp [depth, *]
  | case4 | case9 | case11 | case12 | case16 =>
    rintro ⟨⟩
    refine Nat.le_trans ?_ (Nat.le_add_right _ _)
    simp [depth, *]
  | case5 | case7 | case8 | case10 | case15 | case17 => nofun

/-- **Why a token can stop the machine.** -/
theorem step_eq_error {s : State} {token : Token} {why : Break} (h : s.step limit token = .error why) :
    Stops limit s.depth token why := by
  revert h
  fun_cases step limit s token with
  | case1 | case3 =>
    intro h
    exact (stops_of_onValue h).mono s.length_le_depth
  | case5 done orClose hneed why' hkind =>
    rintro ⟨⟩
    exact .broken (by rw [hkind]; rfl)
  | case7 | case8 | case10 | case15 | case17 =>
    rintro ⟨⟩
    exact .unfit _
  | case2 | case4 | case6 | case9 | case11 | case12 | case13 | case14 | case16 => nofun

theorem run_cons (limit : Nat) (s : State) (token : Token) (rest : List Token) :
    s.run limit (token :: rest) = s.step limit token >>= fun s' => s'.run limit rest :=
  List.foldlM_cons

/-- **A run that stops does so at one of its tokens, no deeper than those before it have opened.** -/
theorem run_eq_error {s : State} {ts : List Token} {why : Break} (h : s.run limit ts = .error why) :
    ∃ before token after depth, ts = before ++ token :: after ∧
      depth ≤ s.depth + before.countP (·.kind.opens) ∧ Stops limit depth token why := by
  induction ts generalizing s with
  | nil => cases h
  | cons token rest ih =>
    rw [run_cons] at h
    cases hstep : s.step limit token with
    | error why' =>
      rw [hstep] at h
      cases h
      exact ⟨[], token, rest, s.depth, rfl, Nat.le_refl _, step_eq_error hstep⟩
    | ok s' =>
      rw [hstep] at h
      obtain ⟨before, token', after, depth, rfl, hdepth, hstops⟩ := ih h
      refine ⟨token :: before, token', after, depth, rfl, ?_, hstops⟩
      have hfirst := depth_le_of_step hstep
      rw [descent] at hfirst
      rw [List.countP_cons]
      omega

end State

/-! ## 4. The whole text -/

/-- What stops the machine has its reason in the text. -/
theorem warranted_of_ofTokens {t : Text} {why : Break} (h : ofTokens limit (tokens t) = .error why) :
    why.Warranted limit t.points := by
  unfold ofTokens at h
  cases hrun : State.run limit ⟨[], .value⟩ (tokens t) with
  | ok s =>
    rw [hrun] at h
    dsimp only [bind, Except.bind] at h
    split at h
    · cases h
    · cases h
      trivial
  | error why' =>
    rw [hrun] at h
    cases h
    obtain ⟨before, token, after, depth, htokens, hdepth, hstops⟩ := State.run_eq_error hrun
    cases hstops with
    | unfit reason => trivial
    | broken hbreak =>
      have hmem : token ∈ tokensFrom 0 t.points := by
        rw [← tokens, htokens]
        exact List.mem_append_right _ List.mem_cons_self
      exact warranted_of_break hmem hbreak
    | tooDeep hopens hdeep =>
      have hall : (tokens t).countP (·.kind.opens) ≤ t.points.countP opensAny :=
        countP_opens_le 0 t.points
      rw [htokens, List.countP_append, List.countP_cons, if_pos hopens] at hall
      have hstart : State.depth ⟨[], .value⟩ = 0 := rfl
      show limit < t.points.countP opensAny
      omega

/-- The fault that a break of the text becomes. -/
def Break.fault (t : Text) : Break → ReadFault
  | error reason offset => .malformed reason (locate t offset)
  | integerTooLong digits => .integerTooLong digits
  | nestedTooDeep => .nestedTooDeep

/-- **What stops the reader has its reason in the text.** -/
theorem warranted_of_read {t : Text} {fault : ReadFault} (h : read limit t = .error fault) :
    ∃ why : Break, fault = why.fault t ∧ why.Warranted limit t.points := by
  unfold read at h
  split at h
  · cases h
    exact ⟨.error .byteOrderMark 0, rfl, trivial⟩
  cases htokens : ofTokens limit (tokens t) with
  | ok v =>
    rw [htokens] at h
    cases h
  | error why =>
    refine ⟨why, ?_, warranted_of_ofTokens htokens⟩
    rw [htokens] at h
    cases why <;> exact (Except.error.inj h).symm

/-- **A text within the limits is read, or its syntax is at fault.** -/
theorem WithinLimits.read_cases {t : Text} (h : WithinLimits limit t) :
    (∃ v, read limit t = .ok v) ∨
      ∃ reason location, read limit t = .error (.malformed reason location) := by
  cases hread : read limit t with
  | ok v => exact .inl ⟨v, rfl⟩
  | error fault =>
    obtain ⟨why, rfl, hwhy⟩ := warranted_of_read hread
    cases why with
    | error reason offset => exact .inr ⟨reason, _, rfl⟩
    | integerTooLong count => exact absurd (h.digits count hwhy.2) (Nat.not_le_of_lt hwhy.1)
    | nestedTooDeep => exact absurd h.openings (Nat.not_le_of_lt hwhy)

end WorkflowGate.Json
