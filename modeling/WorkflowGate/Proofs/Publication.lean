/-
# Which results of a session are published

Runs overlap.  A run takes its token when it begins and hands in its report when it ends, and in
between other runs begin and end, tokens are issued to nobody, and reports are offered under any
token.  `Turn` says what one such moment does to a session and to the tokens of the runs under way,
and a `Schedule` is a history of moments, in any order that the runs allow.

What carries every statement is the `Account` that a history leaves behind: the tokens issued are the
numbers from one on, and no run under way has been published.

* `Account.turn`: one moment keeps the account;
* `Schedule.account`: so every history leaves one;
* `Schedule.publishes_newest`: tokens increase, the latest is the largest, and a run is published
  exactly when no token was issued after its own.
-/
import WorkflowGate.Session

namespace WorkflowGate

namespace RunToken

theorem lt_iff (a b : RunToken) : a < b ↔ a.value < b.value := Iff.rfl

theorem le_iff (a b : RunToken) : a ≤ b ↔ a.value ≤ b.value := Iff.rfl

/-- Tokens are their numbers. -/
theorem value_inj {a b : RunToken} : a.value = b.value ↔ a = b := by
  cases a; cases b
  exact ⟨congrArg RunToken.mk, congrArg RunToken.value⟩

theorem lt_of_le_of_ne {a b : RunToken} (hle : a ≤ b) (hne : a ≠ b) : a < b := by
  have hvalue : a.value ≠ b.value := fun h => hne (value_inj.mp h)
  rw [lt_iff]
  rw [le_iff] at hle
  omega

end RunToken

namespace Session

/-! ## 1. What happens to a session -/

/-- One thing that happens to a session, with what comes of it. -/
inductive Moment
  /-- A token is issued to nobody in particular. -/
  | issued (token : RunToken)
  /-- A run begins and takes its token. -/
  | began (token : RunToken)
  /-- A run ends with a report; `shown` is what its caller gets. -/
  | ended (token : RunToken) (report : Report) (shown : Option Report)
  /-- A run stops with a fault, so there is no report. -/
  | stopped (token : RunToken)
  /-- Somebody offers a report under a token of their own choice. -/
  | offered (token : RunToken) (report : Report) (shown : Option Report)

namespace Moment

/-- The token that is issued at this moment, if one is. -/
def token? : Moment → Option RunToken
  | issued token => some token
  | began token => some token
  | _ => none

/-- The token of the run that is published at this moment, if one is. -/
def published? : Moment → Option RunToken
  | ended token _ (some _) => some token
  | _ => none

end Moment

/-- The tokens issued, in order. -/
def tokens (history : List Moment) : List RunToken := history.filterMap Moment.token?

/-- The tokens of the runs published, in the order of publication. -/
def published (history : List Moment) : List RunToken := history.filterMap Moment.published?

theorem tokens_concat (history : List Moment) (m : Moment) :
    tokens (history ++ [m]) = tokens history ++ m.token?.toList := by
  cases h : m.token? <;> simp [tokens, h]

theorem published_concat (history : List Moment) (m : Moment) :
    published (history ++ [m]) = published history ++ m.published?.toList := by
  cases h : m.published? <;> simp [published, h]

/-- A session and the tokens of the runs under way. -/
structure Desk where
  session : Session := {}
  underway : List RunToken := []

namespace Desk

/-- The desk once a run is no longer under way. -/
def without (d : Desk) (token : RunToken) : Desk :=
  { d with underway := d.underway.filter (· ≠ token) }

@[simp] theorem session_without (d : Desk) (token : RunToken) :
    (d.without token).session = d.session := rfl

@[simp] theorem mem_underway_without {d : Desk} {token t : RunToken} :
    t ∈ (d.without token).underway ↔ t ∈ d.underway ∧ t ≠ token := by
  simp [without]

end Desk

/-- What a moment does.  Only a run under way can end, and offering a report changes nothing. -/
inductive Turn : Desk → Moment → Desk → Prop
  | issue (d : Desk) : Turn d (.issued d.session.issue.1) { d with session := d.session.issue.2 }
  | begin (d : Desk) :
      Turn d (.began d.session.issue.1) ⟨d.session.issue.2, d.session.issue.1 :: d.underway⟩
  | finish (d : Desk) {token : RunToken} (h : token ∈ d.underway) (report : Report) :
      Turn d (.ended token report (d.session.accept token report).1) (d.without token)
  | fail (d : Desk) {token : RunToken} (h : token ∈ d.underway) :
      Turn d (.stopped token) (d.without token)
  | offer (d : Desk) (token : RunToken) (report : Report) :
      Turn d (.offered token report (d.session.accept token report).1) d

/-- A history of a session from its beginning, and the desk that it leaves behind. -/
inductive Schedule : List Moment → Desk → Prop
  | start : Schedule [] {}
  | next {history : List Moment} {d d' : Desk} {m : Moment} (h : Schedule history d)
      (turn : Turn d m d') : Schedule (history ++ [m]) d'

/-- The beginning of a history is one, and what comes next is a turn. -/
theorem Schedule.exists_turn {before after : List Moment} {m : Moment} {d : Desk}
    (h : Schedule (before ++ m :: after) d) : ∃ d₁ d₂, Schedule before d₁ ∧ Turn d₁ m d₂ := by
  generalize hhistory : before ++ m :: after = history at h
  induction h generalizing after with
  | start => exact absurd hhistory (by simp)
  | @next history d₁ d₂ m' h turn ih =>
    rcases List.eq_nil_or_concat after with rfl | ⟨rest, last, rfl⟩
    · obtain ⟨rfl, hm⟩ := List.append_inj' hhistory rfl
      cases hm
      exact ⟨d₁, d₂, h, turn⟩
    · rw [List.concat_eq_append, ← List.cons_append, ← List.append_assoc] at hhistory
      exact ih (List.append_inj' hhistory rfl).1

/-! ## 2. The account -/

/-- A report is shown exactly under the latest token. -/
theorem accept_fst (s : Session) (token : RunToken) (report : Report) :
    (s.accept token report).1 = if s.latest = some token then some report else none := by
  unfold accept isCurrent
  by_cases h : s.latest = some token <;> simp [h]

/-- The first tokens, as many as were issued. -/
def firstTokens (n : Nat) : List RunToken := (List.range n).map fun i => ⟨(i + 1 : Nat)⟩

theorem firstTokens_succ (n : Nat) : firstTokens (n + 1) = firstTokens n ++ [⟨(n + 1 : Nat)⟩] := by
  simp [firstTokens, List.range_succ]

theorem mem_firstTokens {n : Nat} {t : RunToken} :
    t ∈ firstTokens n ↔ 1 ≤ t.value ∧ t.value ≤ n := by
  obtain ⟨value⟩ := t
  simp only [firstTokens, List.mem_map, List.mem_range, RunToken.mk.injEq]
  constructor
  · rintro ⟨i, hi, rfl⟩
    omega
  · rintro ⟨hlow, hhigh⟩
    exact ⟨value.toNat - 1, by omega, by omega⟩

theorem firstTokens_increasing (n : Nat) : (firstTokens n).Pairwise (· < ·) := by
  refine List.pairwise_map.mpr (List.pairwise_lt_range.imp ?_)
  intro i j hij
  rw [RunToken.lt_iff]
  show ((i + 1 : Nat) : Int) < ((j + 1 : Nat) : Int)
  omega

/-- The session is at the end of the tokens: the last of them is the latest, and the next has the number
that comes then. -/
structure IsAfter (s : Session) (issued : List RunToken) : Prop where
  next_eq : s.next = issued.length + 1
  issued_eq : issued = firstTokens issued.length
  latest_eq : s.latest = issued.getLast?

/-- One more token is the next. -/
theorem IsAfter.issue {s : Session} {issued : List RunToken} (h : s.IsAfter issued) :
    s.issue.2.IsAfter (issued ++ [s.issue.1]) where
  next_eq := by
    rw [List.length_append, List.length_singleton, ← h.next_eq]
    rfl
  issued_eq := by
    rw [List.length_append, List.length_singleton, firstTokens_succ, ← h.issued_eq, ← h.next_eq]
    rfl
  latest_eq := by rw [latest_issue, List.getLast?_concat]

/-- What a history leaves behind.  Every token was issued in turn, every run under way has begun, and
those published are in order and no longer under way. -/
structure Account (history : List Moment) (d : Desk) : Prop where
  isAfter : d.session.IsAfter (tokens history)
  begun : ∀ t ∈ d.underway, Moment.began t ∈ history
  increasing : (published history).Pairwise (· < ·)
  settled : ∀ t ∈ published history, t ∈ tokens history ∧ t ∉ d.underway

namespace Account

variable {history : List Moment} {d : Desk}

theorem nothing : Account [] {} where
  isAfter := ⟨rfl, rfl, rfl⟩
  begun _ h := absurd h List.not_mem_nil
  increasing := List.Pairwise.nil
  settled _ h := absurd h List.not_mem_nil

theorem latest_eq (h : Account history d) : d.session.latest = (tokens history).getLast? :=
  h.isAfter.latest_eq

theorem tokens_increasing (h : Account history d) : (tokens history).Pairwise (· < ·) :=
  h.isAfter.issued_eq ▸ firstTokens_increasing _

/-- A token is not larger than the latest. -/
theorem le_latest (h : Account history d) {t latest : RunToken}
    (hlatest : d.session.latest = some latest) (ht : t ∈ tokens history) : t ≤ latest := by
  rw [h.latest_eq] at hlatest
  obtain ⟨before, hbefore⟩ := List.getLast?_eq_some_iff.mp hlatest
  have hincreasing := h.tokens_increasing
  rw [hbefore] at ht hincreasing
  rcases List.mem_append.mp ht with ht | ht
  · exact Int.le_of_lt ((List.pairwise_append.mp hincreasing).2.2 t ht latest List.mem_cons_self)
  · rw [List.mem_singleton.mp ht]
    exact Int.le_refl _

theorem mem_tokens_of_underway (h : Account history d) {t : RunToken} (ht : t ∈ d.underway) :
    t ∈ tokens history :=
  List.mem_filterMap.mpr ⟨.began t, h.begun t ht, rfl⟩

/-- The token that is issued next was never issued before. -/
theorem fresh (h : Account history d) : d.session.issue.1 ∉ tokens history := by
  rw [h.isAfter.issued_eq, mem_firstTokens]
  rintro ⟨-, hle⟩
  have hvalue : d.session.issue.1.value = (d.session.next : Int) := rfl
  rw [h.isAfter.next_eq] at hvalue
  omega

/-- One more token, whoever takes it. -/
theorem isAfter_issue (h : Account history d) {m : Moment}
    (hm : m.token? = some d.session.issue.1) :
    d.session.issue.2.IsAfter (tokens (history ++ [m])) := by
  rw [tokens_concat, hm]
  exact h.isAfter.issue

theorem tokens_eq_of_none {m : Moment} (hm : m.token? = none) :
    tokens (history ++ [m]) = tokens history := by
  rw [tokens_concat, hm, Option.toList_none, List.append_nil]

theorem isAfter_of_none (h : Account history d) {m : Moment} (hm : m.token? = none) :
    d.session.IsAfter (tokens (history ++ [m])) := by
  rw [tokens_eq_of_none hm]
  exact h.isAfter

theorem begun_concat (h : Account history d) (m : Moment) {t : RunToken} (ht : t ∈ d.underway) :
    Moment.began t ∈ history ++ [m] :=
  List.mem_append_left _ (h.begun t ht)

/-- A moment at which nothing is published, and after which no run is under way again. -/
theorem quiet (h : Account history d) {m : Moment} {d' : Desk}
    (hafter : d'.session.IsAfter (tokens (history ++ [m])))
    (hpublished : m.published? = none) (hbegun : ∀ t ∈ d'.underway, .began t ∈ history ++ [m])
    (hgone : ∀ t ∈ tokens history, t ∈ d'.underway → t ∈ d.underway) :
    Account (history ++ [m]) d' := by
  have heq : published (history ++ [m]) = published history := by
    rw [published_concat, hpublished, Option.toList_none, List.append_nil]
  refine ⟨hafter, hbegun, heq ▸ h.increasing, ?_⟩
  intro t ht
  obtain ⟨hmem, hd⟩ := h.settled t (heq ▸ ht)
  rw [tokens_concat]
  exact ⟨List.mem_append_left _ hmem, fun hd' => hd (hgone t hmem hd')⟩

/-- A run leaves the desk and is not published. -/
theorem drop (h : Account history d) {m : Moment} (token : RunToken) (htoken : m.token? = none)
    (hpublished : m.published? = none) : Account (history ++ [m]) (d.without token) :=
  h.quiet (h.isAfter_of_none htoken) hpublished
    (fun _ ht => h.begun_concat m (Desk.mem_underway_without.mp ht).1)
    (fun _ _ ht => (Desk.mem_underway_without.mp ht).1)

/-- A run leaves the desk and is published.  Its token is the latest and none published before had it,
so it is larger than all of those. -/
theorem publish (h : Account history d) {m : Moment} {token : RunToken} (htoken : m.token? = none)
    (hpublished : m.published? = some token) (hrun : token ∈ d.underway)
    (hlatest : d.session.latest = some token) : Account (history ++ [m]) (d.without token) where
  isAfter := h.isAfter_of_none htoken
  begun t ht := h.begun_concat m (Desk.mem_underway_without.mp ht).1
  increasing := by
    rw [published_concat, hpublished, Option.toList_some]
    refine List.pairwise_append.mpr ⟨h.increasing, List.pairwise_singleton _ _, ?_⟩
    intro t ht u hu
    rw [List.mem_singleton.mp hu]
    have hne : t ≠ token := fun heq => (h.settled t ht).2 (heq ▸ hrun)
    exact RunToken.lt_of_le_of_ne (h.le_latest hlatest (h.settled t ht).1) hne
  settled t ht := by
    rw [published_concat, hpublished, Option.toList_some] at ht
    rw [tokens_eq_of_none htoken]
    rcases List.mem_append.mp ht with ht | ht
    · exact ⟨(h.settled t ht).1, fun hd => (h.settled t ht).2 (Desk.mem_underway_without.mp hd).1⟩
    · rw [List.mem_singleton.mp ht]
      exact ⟨h.mem_tokens_of_underway hrun, fun hd => (Desk.mem_underway_without.mp hd).2 rfl⟩

/-- **One moment keeps the account.** -/
theorem turn (h : Account history d) {m : Moment} {d' : Desk} (hturn : Turn d m d') :
    Account (history ++ [m]) d' := by
  cases hturn with
  | issue =>
    exact h.quiet (h.isAfter_issue rfl) rfl (fun t ht => h.begun_concat _ ht) fun _ _ ht => ht
  | begin =>
    refine h.quiet (h.isAfter_issue rfl) rfl ?_ ?_
    · intro t ht
      rcases List.mem_cons.mp ht with rfl | ht
      · exact List.mem_append_right _ List.mem_cons_self
      · exact h.begun_concat _ ht
    · intro t hmem ht
      rcases List.mem_cons.mp ht with rfl | ht
      · exact absurd hmem h.fresh
      · exact ht
  | @finish token hrun report =>
    rw [accept_fst]
    by_cases hlatest : d.session.latest = some token
    · rw [if_pos hlatest]
      exact h.publish rfl rfl hrun hlatest
    · rw [if_neg hlatest]
      exact h.drop token rfl rfl
  | @fail token _ => exact h.drop token rfl rfl
  | offer token report =>
    exact h.quiet (h.isAfter_of_none rfl) rfl (fun t ht => h.begun_concat _ ht)
      fun _ _ ht => ht

end Account

/-- **Every history leaves an account.** -/
theorem Schedule.account {history : List Moment} {d : Desk} (h : Schedule history d) :
    Account history d := by
  induction h with
  | start => exact Account.nothing
  | next _ hturn ih => exact ih.turn hturn

/-! ## 3. Publication -/

/-- A token is the latest exactly when no other was issued after it. -/
theorem Account.latest_eq_some_iff {earlier between : List Moment} {d : Desk} {token : RunToken}
    (h : Account (earlier ++ .began token :: between) d) :
    d.session.latest = some token ↔ tokens between = [] := by
  have htokens : tokens (earlier ++ .began token :: between) =
      tokens earlier ++ token :: tokens between := by
    simp [tokens, Moment.token?]
  have hincreasing := h.tokens_increasing
  rw [htokens] at hincreasing
  have hlater := (List.pairwise_cons.mp (List.pairwise_append.mp hincreasing).2.1).1
  rw [h.latest_eq, htokens, List.getLast?_append, List.getLast?_cons, Option.some_or,
    Option.some.injEq]
  constructor
  · intro hlast
    cases hmem : (tokens between).getLast? with
    | none => exact List.getLast?_eq_none_iff.mp hmem
    | some last =>
      -- the last token was issued after this one, so it is larger
      rw [hmem, Option.getD_some] at hlast
      exact absurd (hlater last (List.mem_of_getLast? hmem)) (hlast ▸ Int.lt_irrefl _)
  · intro hnone
    rw [hnone, List.getLast?_nil, Option.getD_none]

/-- The latest token is the largest of those issued. -/
theorem Account.latest_eq_some_iff_max {history : List Moment} {d : Desk} (h : Account history d)
    (token : RunToken) : d.session.latest = some token ↔
      token ∈ tokens history ∧ ∀ t ∈ tokens history, t ≤ token := by
  constructor
  · intro hlatest
    exact ⟨List.mem_of_getLast? (h.isAfter.latest_eq ▸ hlatest), fun t ht => h.le_latest hlatest ht⟩
  · rintro ⟨hmem, hmax⟩
    cases hlatest : d.session.latest with
    | none =>
      rw [h.isAfter.latest_eq, List.getLast?_eq_none_iff] at hlatest
      rw [hlatest] at hmem
      exact absurd hmem List.not_mem_nil
    | some latest =>
      have hle := hmax latest (List.mem_of_getLast? (h.isAfter.latest_eq ▸ hlatest))
      have hge := h.le_latest hlatest hmem
      exact congrArg some (RunToken.value_inj.mp (Int.le_antisymm hle hge))

/-- **Only the newest run is published**, in every history of a session.  Tokens increase and the
latest is the largest so far; a run that ends is shown exactly when no token was issued after its own;
so the runs published have increasing tokens, and the run with the last token is published when it
ends. -/
theorem Schedule.publishes_newest {history : List Moment} {d : Desk} (h : Schedule history d) :
    (tokens history).Pairwise (· < ·) ∧
    (d.session.latest = none ↔ tokens history = []) ∧
    (∀ token, d.session.latest = some token ↔
      token ∈ tokens history ∧ ∀ t ∈ tokens history, t ≤ token) ∧
    (∀ before token report shown after, history = before ++ .ended token report shown :: after →
      ∃ earlier between, before = earlier ++ .began token :: between ∧
        shown = if tokens between = [] then some report else none) ∧
    (published history).Pairwise (· < ·) ∧
    (∀ before token report shown after, history = before ++ .ended token report shown :: after →
      (tokens history).getLast? = some token → shown = some report) := by
  have haccount := h.account
  have hended : ∀ before token report shown after,
      history = before ++ .ended token report shown :: after →
        ∃ earlier between, before = earlier ++ .began token :: between ∧
          shown = if tokens between = [] then some report else none := by
    rintro before token report shown after rfl
    obtain ⟨d₁, d₂, hbefore, hturn⟩ := h.exists_turn
    cases hturn with
    | finish hrun _ =>
      obtain ⟨earlier, between, rfl⟩ := List.append_of_mem (hbefore.account.begun token hrun)
      exact ⟨earlier, between, rfl, by simp only [accept_fst, hbefore.account.latest_eq_some_iff]⟩
  refine ⟨haccount.tokens_increasing, ?_, haccount.latest_eq_some_iff_max, hended,
    haccount.increasing, ?_⟩
  · rw [haccount.latest_eq, List.getLast?_eq_none_iff]
  · rintro before token report shown after rfl hlast
    obtain ⟨earlier, between, rfl, hshown⟩ := hended before token report shown after rfl
    have hbetween : tokens (between ++ .ended token report shown :: after) = [] := by
      rw [List.append_assoc, List.cons_append] at haccount hlast
      exact haccount.latest_eq_some_iff.mp (haccount.latest_eq.trans hlast)
    have hnone : tokens between = [] := by
      rw [tokens, List.filterMap_append, List.append_eq_nil_iff] at hbetween
      exact hbetween.1
    rw [hshown, if_pos hnone]

/-- A slow run, and one that begins after it and ends before it. -/
def overtaken (slow quick : Report) : List Moment :=
  [.began ⟨1⟩, .began ⟨2⟩, .ended ⟨2⟩ quick (some quick), .ended ⟨1⟩ slow none]

theorem schedule_overtaken (slow quick : Report) : Schedule (overtaken slow quick) ⟨⟨3, some ⟨2⟩⟩, []⟩ := by
  have hbegun : Schedule [.began ⟨1⟩, .began ⟨2⟩] ⟨⟨3, some ⟨2⟩⟩, [⟨2⟩, ⟨1⟩]⟩ :=
    .next (.next .start (.begin _)) (.begin _)
  have hquick : Turn ⟨⟨3, some ⟨2⟩⟩, [⟨2⟩, ⟨1⟩]⟩ (.ended ⟨2⟩ quick (some quick)) ⟨⟨3, some ⟨2⟩⟩, [⟨1⟩]⟩ :=
    .finish _ (by decide) quick
  have hslow : Turn ⟨⟨3, some ⟨2⟩⟩, [⟨1⟩]⟩ (.ended ⟨1⟩ slow none) ⟨⟨3, some ⟨2⟩⟩, []⟩ := .finish _ (by decide) slow
  exact .next (.next hbegun hquick) hslow

/-- The slow run does not take the place of the quick one. -/
theorem publishes_newest_overtaken :
    Schedule (overtaken (.ofFindings [Gate.emptyFinding]) {}) ⟨⟨3, some ⟨2⟩⟩, []⟩ ∧
      published (overtaken (.ofFindings [Gate.emptyFinding]) {}) = [⟨2⟩] ∧
      (∀ token, (⟨3, some ⟨2⟩⟩ : Session).latest = some token ↔
        token ∈ [⟨1⟩, ⟨2⟩] ∧ ∀ t ∈ [⟨1⟩, ⟨2⟩], t ≤ token) ∧
      ∃ earlier between, [.began ⟨1⟩, .began ⟨2⟩, .ended ⟨2⟩ {} (some {})] =
        earlier ++ .began ⟨1⟩ :: between ∧
          none = if tokens between = [] then some (Report.ofFindings [Gate.emptyFinding]) else none := by
  have hschedule := schedule_overtaken (.ofFindings [Gate.emptyFinding]) {}
  obtain ⟨-, -, hlatest, hended, -, -⟩ := hschedule.publishes_newest
  exact ⟨hschedule, rfl, hlatest, hended [.began ⟨1⟩, .began ⟨2⟩, .ended ⟨2⟩ {} (some {})] _ _ _ [] rfl⟩

end Session

end WorkflowGate
