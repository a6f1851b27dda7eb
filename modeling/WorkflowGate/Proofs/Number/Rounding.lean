/-
# How far rounding can go

Rounding into the format at most doubles a magnitude, up to one unit (`nearestUnits_le`).  A sum is
rounded, so a sum that is finite is within the range of the format, and a fraction of it is finite
as well.

* `bounded_add`: a finite sum is within range;
* `round?_divNat_isSome`: a number within range, divided by three or more, has a nearest whole
  number;
* `ofInt?_ne_none_iff`: the integers that have a nearest float.
-/
import WorkflowGate.Number.Binary64
import Mathlib.Tactic.Ring

namespace WorkflowGate

/-! ## 1. Rounding -/

/-- Rounding does not see a common factor. -/
theorem roundDiv_mul_mul (num den u : Nat) (hu : 0 < u) :
    roundDiv (num * u) (den * u) = roundDiv num den := by
  unfold roundDiv
  simp only [Nat.mul_div_mul_right _ _ hu, Nat.mul_mod_mul_right, ← Nat.mul_assoc,
    Nat.mul_lt_mul_right hu]

/-- A rounded quotient stays below an even number exactly when the quotient is more than a half
below it. -/
theorem roundDiv_lt_iff {num half bound : Nat} (hhalf : 0 < half) (heven : bound % 2 = 0) :
    roundDiv num (2 * half) < bound ↔ num + half < bound * (2 * half) := by
  have hnum := Nat.div_add_mod' num (2 * half)
  have hrest := Nat.mod_lt num (Nat.mul_pos Nat.two_pos hhalf)
  have hbounds := roundDiv_bounds num (2 * half)
  unfold roundDiv at hbounds ⊢
  generalize num / (2 * half) = q at *
  generalize num % (2 * half) = r at *
  rcases Nat.lt_trichotomy (q + 1) bound with hlow | heq | hhigh
  · have hle : (q + 2) * (2 * half) ≤ bound * (2 * half) := Nat.mul_le_mul_right _ hlow
    rw [Nat.add_mul] at hle
    exact iff_of_true (Nat.lt_of_le_of_lt hbounds.2 hlow) (by omega)
  · -- the number below an even one is odd, so a half goes up
    subst heq
    have hodd : ¬ q % 2 = 0 := by omega
    rw [Nat.add_mul]
    simp only [hodd, if_false]
    split
    · omega
    · split <;> omega
  · have hle : bound * (2 * half) ≤ q * (2 * half) := Nat.mul_le_mul_right _ (by omega)
    exact iff_of_false (by omega) (by omega)

namespace Binary64

theorem two_le_pow (n : Nat) (h : n ≠ 0) : 2 ≤ Nat.pow 2 n := Nat.le_self_pow h 2

/-- Rounding at most doubles a quotient, up to one. -/
theorem nearestUnits_le (num den : Nat) : nearestUnits num den ≤ 2 * (num / den) + 1 := by
  unfold nearestUnits
  by_cases hsmall : num / den < Nat.pow 2 53
  · simp only [hsmall, if_true]
    have hround := (roundDiv_bounds num den).2
    omega
  · simp only [hsmall, if_false]
    have hpos : num / den ≠ 0 := by
      intro hzero
      rw [hzero] at hsmall
      exact hsmall (by decide)
    generalize hscale : Nat.pow 2 ((num / den).log2 - 52) = scale
    have hle : scale ≤ num / den := by
      rw [← hscale]
      exact Nat.le_trans (Nat.pow_le_pow_right (by decide) (Nat.sub_le (num / den).log2 52))
        (Nat.log2_self_le hpos)
    have hround := (roundDiv_bounds num (den * scale)).2
    rw [← Nat.div_div_eq_div_mul] at hround
    calc roundDiv num (den * scale) * scale
        ≤ (num / den / scale + 1) * scale := Nat.mul_le_mul_right scale hround
      _ = num / den / scale * scale + scale := by rw [Nat.add_mul, Nat.one_mul]
      _ ≤ num / den + num / den := Nat.add_le_add (Nat.div_mul_le_self _ _) hle
      _ ≤ 2 * (num / den) + 1 := by omega

/-- A third of a number, or less, stays below the bounds of the number when it is rounded. -/
theorem nearestUnits_lt {num den bound : Nat} (hden : 3 ≤ den) (hbound : 2 ≤ bound)
    (h : num < bound) : nearestUnits num den < bound := by
  have hle := nearestUnits_le num den
  have hdiv : num / den ≤ num / 3 := Nat.div_le_div_left hden (by decide)
  omega

/-! ## 2. Within range -/

theorem ofUnits_of_lt (negative : Bool) {num den : Nat}
    (h : nearestUnits num den < Nat.pow 2 2098) :
    ofUnits negative num den = finite negative (nearestUnits num den) := by
  unfold ofUnits
  exact if_pos h

theorem ofUnits_of_not_lt (negative : Bool) {num den : Nat}
    (h : ¬ nearestUnits num den < Nat.pow 2 2098) :
    ofUnits negative num den = infinite negative := by
  unfold ofUnits
  exact if_neg h

/-- A finite number has fewer units than the format can count. -/
def Bounded (x : Binary64) : Prop :=
  ∀ negative units, x = finite negative units → units < Nat.pow 2 2098

theorem bounded_zero : Bounded zero := by
  intro negative units h
  cases h
  exact Nat.lt_of_lt_of_le Nat.two_pos (two_le_pow 2098 (by decide))

theorem bounded_ofUnits (negative : Bool) (num den : Nat) : Bounded (ofUnits negative num den) := by
  intro negative' units h
  by_cases hrange : nearestUnits num den < Nat.pow 2 2098
  · rw [ofUnits_of_lt negative hrange] at h
    cases h
    exact hrange
  · rw [ofUnits_of_not_lt negative hrange] at h
    cases h

/-- **A finite sum is within range**, whatever its terms are. -/
theorem bounded_add (x y : Binary64) : Bounded (x.add y) := by
  have hsigned : ∀ (zeroNegative : Bool) (units : Int), Bounded (ofSignedUnits zeroNegative units) := by
    intro zeroNegative units
    unfold ofSignedUnits
    by_cases hzero : units = 0
    · rw [if_pos hzero]
      intro negative units h
      cases h
      exact bounded_zero _ _ rfl
    · rw [if_neg hzero]
      exact bounded_ofUnits _ _ _
  cases x with
  | nan => exact fun _ _ h => nomatch h
  | infinite a =>
    cases y with
    | nan => exact fun _ _ h => nomatch h
    | infinite b =>
      unfold add
      by_cases hab : a = b <;> simp only [hab, if_true, if_false] <;> exact fun _ _ h => nomatch h
    | finite b n => exact fun _ _ h => nomatch h
  | finite a m =>
    cases y with
    | nan => exact fun _ _ h => nomatch h
    | infinite b => exact fun _ _ h => nomatch h
    | finite b n => exact hsigned _ _

/-- **A fraction of a finite number has a nearest whole number.** -/
theorem round?_divNat_isSome {negative : Bool} {units n : Nat} (hn : 3 ≤ n)
    (h : Bounded (finite negative units)) :
    ∃ i, ((finite negative units).divNat n).round? = some i := by
  have hfinite : nearestUnits units n < Nat.pow 2 2098 :=
    nearestUnits_lt hn (two_le_pow 2098 (by decide)) (h negative units rfl)
  rw [divNat, ofUnits_of_lt negative hfinite]
  exact ⟨_, rfl⟩

/-! ## 3. Integers -/

theorem nearestUnits_of_log2 {k num : Nat} (hk : 53 ≤ k) (h : 2 ^ k ≤ num) (h' : num < 2 ^ (k + 1)) :
    nearestUnits num 1 = roundDiv num (2 ^ (k - 52)) * 2 ^ (k - 52) := by
  have hlog : num.log2 = k := (Nat.log2_eq_iff (by have := Nat.two_pow_pos k; omega)).mpr ⟨h, h'⟩
  have hlarge : ¬ num < Nat.pow 2 53 := by
    have := Nat.pow_le_pow_right (n := 2) Nat.two_pos hk
    simp only [Nat.pow_eq]
    omega
  unfold nearestUnits
  simp only [Nat.div_one, hlarge, if_false, hlog, Nat.one_mul, Nat.pow_eq]

/-- Rounding never falls below a power of two. -/
theorem le_nearestUnits {k num : Nat} (hk : 53 ≤ k) (h : 2 ^ k ≤ num) :
    2 ^ k ≤ nearestUnits num 1 := by
  have hne : num ≠ 0 := by
    have hpos := Nat.two_pow_pos k
    omega
  have hlog : k ≤ num.log2 := (Nat.le_log2 hne).mpr h
  rw [nearestUnits_of_log2 (by omega) (Nat.log2_self_le hne) Nat.lt_log2_self]
  have hfloor := (roundDiv_bounds num (2 ^ (num.log2 - 52))).1
  calc 2 ^ k ≤ 2 ^ num.log2 := Nat.pow_le_pow_right Nat.two_pos hlog
    _ = 2 ^ 52 * 2 ^ (num.log2 - 52) := by
      rw [← Nat.pow_add]
      congr 1
      omega
    _ ≤ num / 2 ^ (num.log2 - 52) * 2 ^ (num.log2 - 52) := by
      refine Nat.mul_le_mul_right _ ((Nat.le_div_iff_mul_le (Nat.two_pow_pos _)).mpr ?_)
      rw [← Nat.pow_add, show 52 + (num.log2 - 52) = num.log2 by omega]
      exact Nat.log2_self_le hne
    _ ≤ roundDiv num (2 ^ (num.log2 - 52)) * 2 ^ (num.log2 - 52) :=
      Nat.mul_le_mul_right _ hfloor

/-- With `54` bits to spare, rounding stays below the power of two exactly when the number does by more
than half of its last significant bit. -/
theorem nearestUnits_lt_iff (a b n : Nat) :
    nearestUnits (2 ^ a * n) 1 < 2 ^ (a + b + 54) ↔ n + 2 ^ b < 2 ^ (b + 54) := by
  have hsplit (k : Nat) : 2 ^ (a + b + k) = 2 ^ a * 2 ^ (b + k) := by
    rw [Nat.add_assoc, Nat.pow_add]
  have hhalf : 2 ^ (b + 54) = 2 * 2 ^ (b + 53) := Nat.pow_succ'
  have hbit : 2 ^ b ≤ 2 ^ (b + 53) ∧ 0 < 2 ^ b :=
    ⟨ Nat.pow_le_pow_right Nat.two_pos (Nat.le_add_right b 53), Nat.two_pow_pos b⟩
  rcases Nat.lt_or_ge n (2 ^ (b + 53)) with hlow | hge
  · have hle : 2 ^ a * (n + 1) ≤ 2 ^ a * 2 ^ (b + 53) := Nat.mul_le_mul_left _ hlow
    have hround := nearestUnits_le (2 ^ a * n) 1
    rw [Nat.div_one] at hround
    rw [Nat.mul_add] at hle
    refine iff_of_true ?_ (by omega)
    rw [hsplit, hhalf, Nat.mul_left_comm]
    have hpos := Nat.two_pow_pos a
    omega
  · rcases Nat.lt_or_ge n (2 ^ (b + 54)) with hlt | hhigh
    · have hround : nearestUnits (2 ^ a * n) 1 =
          roundDiv n (2 * 2 ^ b) * (2 * 2 ^ b * 2 ^ a) := by
        rw [nearestUnits_of_log2 (k := a + b + 53) (by omega), show a + b + 53 - 52 = b + 1 + a by omega,
          Nat.pow_add 2 (b + 1), Nat.pow_succ', Nat.mul_comm (2 ^ a) n,
          roundDiv_mul_mul _ _ _ (Nat.two_pow_pos a)]
        · rw [hsplit]
          exact Nat.mul_le_mul_left _ hge
        · rw [Nat.add_assoc (a + b), hsplit]
          exact Nat.mul_lt_mul_of_pos_left hlt (Nat.two_pow_pos a)
      have hrange : 2 ^ (a + b + 54) = 2 ^ 53 * (2 * 2 ^ b * 2 ^ a) := by
        rw [hsplit, hhalf, Nat.pow_add 2 b]
        ring
      have hpos : 0 < 2 * 2 ^ b * 2 ^ a :=
        Nat.mul_pos (Nat.mul_pos Nat.two_pos (Nat.two_pow_pos b)) (Nat.two_pow_pos a)
      have hbound : 2 ^ (b + 54) = 2 ^ 53 * (2 * 2 ^ b) := by
        rw [hhalf, Nat.pow_add 2 b]
        ring
      rw [hround, hrange, Nat.mul_lt_mul_right hpos,
        roundDiv_lt_iff (Nat.two_pow_pos b) (by decide), ← hbound]
    · have hle : 2 ^ (a + b + 54) ≤ nearestUnits (2 ^ a * n) 1 := by
        refine le_nearestUnits (by omega) ?_
        rw [hsplit]
        exact Nat.mul_le_mul_left _ hhigh
      exact iff_of_false (by omega) (by omega)

/-- **The integers whose nearest float is finite** are those that are nearer to the greatest float
than to the next power of two. -/
theorem ofInt?_ne_none_iff (i : Int) :
    ofInt? i ≠ none ↔ i.natAbs + 2 ^ 970 < 2 ^ 1024 := by
  have hunits : ofInt? i ≠ none ↔ nearestUnits (unitsPerOne * i.natAbs) 1 < Nat.pow 2 2098 := by
    rw [ofInt?, ofRatio]
    by_cases h : nearestUnits (unitsPerOne * i.natAbs) 1 < Nat.pow 2 2098
    · rw [ofUnits_of_lt _ h]
      exact iff_of_true (fun h => by cases h) h
    · rw [ofUnits_of_not_lt _ h]
      exact iff_of_false (fun hne => hne rfl) h
  rw [hunits]
  exact nearestUnits_lt_iff 1074 970 i.natAbs

end Binary64

end WorkflowGate
