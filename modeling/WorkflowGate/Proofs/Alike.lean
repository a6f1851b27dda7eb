/-
# Results that agree but for one kind of failure

Two computations that differ only in how much room they have do the same, unless one of them runs out of
it.  `AlikeUnless` says so of their results, for any kind of failure, and passes from the parts of a
computation to the whole, since a failure ends the whole.

* `AlikeUnless.bind`, `AlikeUnless.mapM`, `AlikeUnless.foldlM`: **what is put together of such parts
  agrees in the same way**;
* `Spares.bind`, `Spares.mapM`: what is put together of parts that never fail in this way does not either.
-/

namespace WorkflowGate

variable {ε α β γ : Type} {kind : ε → Prop}

/-- The result is a failure of the kind. -/
def FailsBy (kind : ε → Prop) (x : Except ε α) : Prop := ∃ e, x = .error e ∧ kind e

/-- The result is no failure of the kind. -/
def Spares (kind : ε → Prop) (x : Except ε α) : Prop := ∀ e, x = .error e → ¬ kind e

/-- **Two results are the same, unless one of them is a failure of the kind.** -/
def AlikeUnless (kind : ε → Prop) (x y : Except ε α) : Prop :=
  x = y ∨ FailsBy kind x ∨ FailsBy kind y

theorem FailsBy.bind {x : Except ε α} (h : FailsBy kind x) (k : α → Except ε β) :
    FailsBy kind (x >>= k) := by
  obtain ⟨e, rfl, he⟩ := h
  exact ⟨e, rfl, he⟩

namespace AlikeUnless

theorem refl (x : Except ε α) : AlikeUnless kind x x := .inl rfl

theorem bind {x y : Except ε α} {k k' : α → Except ε β} (h : AlikeUnless kind x y)
    (hk : ∀ a, AlikeUnless kind (k a) (k' a)) : AlikeUnless kind (x >>= k) (y >>= k') := by
  rcases h with rfl | hx | hy
  · cases x with
    | error e => exact .refl _
    | ok a => exact hk a
  · exact .inr (.inl (hx.bind k))
  · exact .inr (.inr (hy.bind k'))

theorem map {x y : Except ε α} (h : AlikeUnless kind x y) (f : α → β) :
    AlikeUnless kind (f <$> x) (f <$> y) := by
  rw [map_eq_pure_bind, map_eq_pure_bind]
  exact h.bind fun a => .refl _

/-- Lists whose members agree are gone through alike. -/
theorem mapM {f f' : α → Except ε β} (h : ∀ a, AlikeUnless kind (f a) (f' a)) (xs : List α) :
    AlikeUnless kind (xs.mapM f) (xs.mapM f') := by
  induction xs with
  | nil => exact .refl _
  | cons x rest ih =>
    rw [List.mapM_cons, List.mapM_cons]
    exact (h x).bind fun b => ih.bind fun bs => .refl _

theorem foldlM {f f' : γ → α → Except ε γ} (h : ∀ c a, AlikeUnless kind (f c a) (f' c a)) (c : γ)
    (xs : List α) : AlikeUnless kind (xs.foldlM f c) (xs.foldlM f' c) := by
  induction xs generalizing c with
  | nil => exact .refl _
  | cons x rest ih =>
    rw [List.foldlM_cons, List.foldlM_cons]
    exact (h c x).bind fun c' => ih c'

end AlikeUnless

namespace Spares

theorem ok (a : α) : Spares kind (.ok a : Except ε α) := by
  rintro e ⟨⟩

theorem bind {x : Except ε α} {k : α → Except ε β} (h : Spares kind x)
    (hk : ∀ a, Spares kind (k a)) : Spares kind (x >>= k) := by
  cases x with
  | error e =>
    rintro _ ⟨⟩
    exact h e rfl
  | ok a => exact hk a

theorem mapM {f : α → Except ε β} (h : ∀ a, Spares kind (f a)) (xs : List α) :
    Spares kind (xs.mapM f) := by
  induction xs with
  | nil => exact .ok []
  | cons x rest ih =>
    rw [List.mapM_cons]
    exact (h x).bind fun b => ih.bind fun bs => .ok _

end Spares

end WorkflowGate
