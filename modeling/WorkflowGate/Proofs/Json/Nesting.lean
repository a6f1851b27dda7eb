/-
# How deep the reader goes

The limit on lists and mappings within each other is the caller's, and a reader does not know it but by
running into it.  So two readers with different limits make the same of a text, unless one of them stops
there.  Texts of nothing but brackets show that every limit is reached.

* `alike_read`: **two limits read a text alike, unless it is too deep for one of them**;
* `read_brackets`: brackets are read up to the limit, and no further.
-/
import WorkflowGate.Proofs.Alike
import WorkflowGate.Proofs.Json.Limits

namespace WorkflowGate.Json

/-! ## 1. Two limits -/

/-- The text is too deep. -/
def Break.IsTooDeep (why : Break) : Prop := why = .nestedTooDeep

namespace State

variable (limit limit' : Nat)

theorem alike_nested (stack : List Frame) (opened : State) :
    AlikeUnless Break.IsTooDeep (nested limit stack opened) (nested limit' stack opened) := by
  unfold nested
  split
  · split
    · exact .refl _
    · exact .inr (.inr ⟨_, rfl, rfl⟩)
  · exact .inr (.inl ⟨_, rfl, rfl⟩)

/-- Only a token that opens a list or a mapping meets the limit. -/
theorem alike_onValue (stack : List Frame) (t : Token) :
    AlikeUnless Break.IsTooDeep (onValue limit stack t) (onValue limit' stack t) := by
  unfold onValue
  split
  · exact alike_nested limit limit' _ _
  · exact alike_nested limit limit' _ _
  all_goals exact .refl _

theorem alike_step (s : State) (t : Token) :
    AlikeUnless Break.IsTooDeep (s.step limit t) (s.step limit' t) := by
  unfold step
  split
  · exact alike_onValue limit limit' _ _
  · split
    · exact .refl _
    · exact alike_onValue limit limit' _ _
  all_goals exact .refl _

end State

variable (limit limit' : Nat)

theorem alike_ofTokens (ts : List Token) :
    AlikeUnless Break.IsTooDeep (ofTokens limit ts) (ofTokens limit' ts) :=
  (AlikeUnless.foldlM (State.alike_step limit limit') _ ts).bind fun _ => .refl _

/-- **Two limits read a text alike, unless it is too deep for one of them.** -/
theorem alike_read (t : Text) :
    AlikeUnless (· = ReadFault.nestedTooDeep) (read limit t) (read limit' t) := by
  unfold read
  split
  · exact .refl _
  · rcases alike_ofTokens limit limit' (tokens t) with heq | ⟨_, hdeep, rfl⟩ | ⟨_, hdeep, rfl⟩
    · rw [heq]
      exact .refl _
    · rw [hdeep]
      exact .inr (.inl ⟨_, rfl, rfl⟩)
    · rw [hdeep]
      exact .inr (.inr ⟨_, rfl, rfl⟩)

/-! ## 2. Brackets -/

/-- A text of so many opening brackets and as many closing ones behind them. -/
def brackets (n : Nat) : Text :=
  ⟨List.replicate n (CodePoint.ofChar '[') ++ List.replicate n (CodePoint.ofChar ']')⟩

theorem tokensFrom_opening (offset : Nat) (ps : List CodePoint) :
    tokensFrom offset (CodePoint.ofChar '[' :: ps) =
      ⟨offset, .openList⟩ :: tokensFrom (offset + 1) ps := by
  rw [tokensFrom]
  rfl

theorem tokensFrom_closing (offset : Nat) (ps : List CodePoint) :
    tokensFrom offset (CodePoint.ofChar ']' :: ps) =
      ⟨offset, .closeList⟩ :: tokensFrom (offset + 1) ps := by
  rw [tokensFrom]
  rfl

namespace State

variable {limit : Nat}

/-- So many lists have been opened, and nothing has been put into them. -/
def opened (n : Nat) : State := ⟨List.replicate n (.list []), .valueOrClose⟩

theorem step_opened (n offset : Nat) : (opened n).step limit ⟨offset, .openList⟩ =
    if n < limit then .ok (opened (n + 1)) else .error .nestedTooDeep := by
  have hlength : (List.replicate n (Frame.list [])).length = n := List.length_replicate
  simp only [step, opened, onValue, nested, hlength, List.replicate_succ]

/-- Opening brackets are taken up to the limit. -/
theorem run_openings {n : Nat} (h : n ≤ limit) (m offset : Nat) (rest : List CodePoint) :
    (opened n).run limit (tokensFrom offset (List.replicate m (CodePoint.ofChar '[') ++ rest)) =
      if n + m ≤ limit then (opened (n + m)).run limit (tokensFrom (offset + m) rest)
      else .error .nestedTooDeep := by
  induction m generalizing n offset with
  | zero => exact (if_pos h).symm
  | succ m ih =>
    rw [List.replicate_succ, List.cons_append, tokensFrom_opening, run_cons, step_opened]
    by_cases hroom : n < limit
    · rw [if_pos hroom]
      refine (ih hroom (offset + 1)).trans ?_
      rw [Nat.add_right_comm n 1 m, Nat.add_right_comm offset 1 m]
      rfl
    · rw [if_neg hroom, if_neg (by omega)]
      rfl

/-- Closing brackets are taken as long as lists are open. -/
theorem run_closings (n offset : Nat) (inner : List Value) : ∃ items,
    (deliver (List.replicate n (.list [])) (.list inner)).run limit
      (tokensFrom offset (List.replicate n (CodePoint.ofChar ']'))) =
        .ok ⟨[], .ending (.list items)⟩ := by
  induction n generalizing offset inner with
  | zero =>
    refine ⟨inner, ?_⟩
    rw [List.replicate_zero, List.replicate_zero, tokensFrom]
    rfl
  | succ n ih =>
    rw [List.replicate_succ, List.replicate_succ, tokensFrom_closing, run_cons]
    exact ih (offset + 1) [.list inner]

/-- So brackets are taken if there are not too many. -/
theorem run_brackets {n : Nat} (hn : 0 < n) (limit : Nat) :
    (n ≤ limit → ∃ items, run limit ⟨[], .value⟩ (tokens (brackets n)) =
        .ok ⟨[], .ending (.list items)⟩) ∧
      (limit < n → run limit ⟨[], .value⟩ (tokens (brackets n)) = .error .nestedTooDeep) := by
  have hopened : run limit ⟨[], .value⟩ (tokens (brackets n)) =
      if n ≤ limit then
        run limit (opened n) (tokensFrom n (List.replicate n (CodePoint.ofChar ']')))
      else .error .nestedTooDeep := by
    have hstart : run limit ⟨[], .value⟩ (tokens (brackets n)) =
        run limit (opened 0) (tokens (brackets n)) := by
      obtain ⟨m, rfl⟩ := Nat.exists_eq_add_one.mpr hn
      rw [tokens, brackets, List.replicate_succ, List.cons_append, tokensFrom_opening, run_cons, run_cons]
      rfl
    rw [hstart, tokens, brackets, run_openings (Nat.zero_le limit), Nat.zero_add]
  rw [hopened]
  refine ⟨fun hle => ?_, fun hlt => if_neg (Nat.not_le_of_lt hlt)⟩
  rw [if_pos hle]
  obtain ⟨m, rfl⟩ := Nat.exists_eq_add_one.mpr hn
  rw [List.replicate_succ, tokensFrom_closing, run_cons]
  exact run_closings m (m + 1 + 1) []

end State

/-- **Brackets are read up to the limit, and no further.** -/
theorem read_brackets {n : Nat} (hn : 0 < n) (limit : Nat) :
    (n ≤ limit → ∃ items, read limit (brackets n) = .ok (.list items)) ∧
      (limit < n → read limit (brackets n) = .error .nestedTooDeep) := by
  have hmark : (brackets n).points.head? ≠ some (CodePoint.ofNat 0xFEFF) := by
    obtain ⟨m, rfl⟩ := Nat.exists_eq_add_one.mpr hn
    rw [brackets, List.replicate_succ, List.cons_append, List.head?_cons, ne_eq, Option.some.injEq]
    decide
  obtain ⟨hread, hdeep⟩ := State.run_brackets hn limit
  rw [read, if_neg hmark, ofTokens]
  refine ⟨fun hle => ?_, fun hlt => ?_⟩
  · obtain ⟨items, hitems⟩ := hread hle
    rw [hitems]
    exact ⟨items, rfl⟩
  · rw [hdeep hlt]
    rfl

end WorkflowGate.Json
