/-
# Decoding accepts exactly what encoding produces

The well-formed sequences of bytes are the ones that a code point other than a surrogate half is written
as (`Sequence`).  The decoder takes such a sequence off the bytes at every step, and the encoder writes
one for every code point.  So a text that bytes decode to is a text that they encode.

* `exists_sequence_of_decodePoint`, `Sequence.decodePoint_eq`: a step of the decoder takes off a
  well-formed sequence, and every such sequence is taken off;
* `sequence_encodePoint`, `Sequence.encodePoint_eq`: a code point is written as one, and only as one;
* `decode_eq_ok_iff`: **bytes decode to a text exactly when it encodes to them**;
* `decodeFile_eq_ok_iff`: the same for a file, which may carry a mark in front.
-/
import WorkflowGate.Text.Utf8

namespace WorkflowGate.Utf8

/-! ## 1. Bytes -/

theorem isContinuation_iff (b : UInt8) :
    isContinuation b = true ↔ 0x80 ≤ b.toNat ∧ b.toNat ≤ 0xBF := by
  simp [isContinuation, UInt8.le_iff_toNat_le]

/-- Which byte may come second: the four special first bytes narrow the range at one end. -/
theorem isSecond_iff (a b : UInt8) :
    isSecond false a b = true ↔ (0x80 ≤ b.toNat ∧ b.toNat ≤ 0xBF) ∧
      (a.toNat = 0xE0 → 0xA0 ≤ b.toNat) ∧ (a.toNat = 0xED → b.toNat < 0xA0) ∧
      (a.toNat = 0xF0 → 0x90 ≤ b.toNat) ∧ (a.toNat = 0xF4 → b.toNat < 0x90) := by
  have heq (k : UInt8) : a = k ↔ a.toNat = k.toNat := UInt8.toNat_inj.symm
  rw [isSecond, Bool.and_eq_true, isContinuation_iff]
  refine and_congr_right fun _ => ?_
  simp only [heq, UInt8.lt_iff_toNat_lt, UInt8.le_iff_toNat_le]
  by_cases hE0 : a.toNat = 0xE0
  · simp [hE0]
  by_cases hED : a.toNat = 0xED
  · simp [hED]
  by_cases hF0 : a.toNat = 0xF0
  · simp [hF0]
  by_cases hF4 : a.toNat = 0xF4
  · simp [hF4]
  simp [hE0, hED, hF0, hF4]

/-- How long a sequence is that starts with the byte. -/
theorem sequenceLength?_eq_some_iff (a : UInt8) (n : Nat) :
    sequenceLength? a = some n ↔
      (n = 1 ∧ a.toNat < 0x80) ∨ (n = 2 ∧ 0xC2 ≤ a.toNat ∧ a.toNat < 0xE0) ∨
        (n = 3 ∧ 0xE0 ≤ a.toNat ∧ a.toNat < 0xF0) ∨ (n = 4 ∧ 0xF0 ≤ a.toNat ∧ a.toNat < 0xF5) := by
  have hlt (k : UInt8) : a < k ↔ a.toNat < k.toNat := UInt8.lt_iff_toNat_lt
  simp only [sequenceLength?, hlt, UInt8.reduceToNat]
  repeat' split
  all_goals simp only [Option.some.injEq, reduceCtorEq, false_iff]
  all_goals omega

/-! ## 2. Sequences -/

/-- The bytes are a well-formed sequence that stands for the number. -/
inductive Sequence : List UInt8 → Nat → Prop
  | one {a : UInt8} : a.toNat < 0x80 → Sequence [a] a.toNat
  | two {a b : UInt8} : 0xC2 ≤ a.toNat → a.toNat < 0xE0 → isSecond false a b = true →
      Sequence [a, b] (a.toNat % 32 * 64 + low6 b)
  | three {a b c : UInt8} : 0xE0 ≤ a.toNat → a.toNat < 0xF0 → isSecond false a b = true →
      isContinuation c = true → Sequence [a, b, c] ((a.toNat % 16 * 64 + low6 b) * 64 + low6 c)
  | four {a b c d : UInt8} : 0xF0 ≤ a.toNat → a.toNat < 0xF5 → isSecond false a b = true →
      isContinuation c = true → isContinuation d = true →
      Sequence [a, b, c, d] (((a.toNat % 8 * 64 + low6 b) * 64 + low6 c) * 64 + low6 d)

/-- **A step of the decoder takes a well-formed sequence off the bytes.** -/
theorem exists_sequence_of_decodePoint {a : UInt8} {rest : List UInt8} {p : CodePoint} {length : Nat}
    (h : decodePoint false a rest = .point p length) :
    ∃ seq more n, rest = seq ++ more ∧ Sequence (a :: seq) n ∧ p = CodePoint.ofNat n ∧
      length = seq.length + 1 := by
  unfold decodePoint at h
  split at h
  next => cases h
  next hone =>
    cases h
    have hrange : a.toNat < 0x80 := by
      have := (sequenceLength?_eq_some_iff a 1).mp hone
      omega
    exact ⟨[], _, _, rfl, .one hrange, rfl, rfl⟩
  next => cases h
  next length b rest hnot hlength =>
    replace hnot : length ≠ 1 := hnot
    have hrange := (sequenceLength?_eq_some_iff a length).mp hlength
    split at h
    next => cases h
    next hb =>
      rw [Bool.not_eq_true', Bool.not_eq_false] at hb
      split at h
      next htwo =>
        cases h
        exact ⟨[b], rest, _, rfl, .two (by omega) (by omega) hb, rfl, rfl⟩
      next htwo =>
        split at h
        next => cases h
        next c rest =>
          split at h
          next => cases h
          next hc =>
            rw [Bool.not_eq_true', Bool.not_eq_false] at hc
            split at h
            next hthree =>
              cases h
              exact ⟨[b, c], rest, _, rfl, .three (by omega) (by omega) hb hc, rfl, rfl⟩
            next hthree =>
              split at h
              next => cases h
              next d rest =>
                split at h
                next => cases h
                next hd =>
                  rw [Bool.not_eq_true', Bool.not_eq_false] at hd
                  cases h
                  exact ⟨[b, c, d], rest, _, rfl, .four (by omega) (by omega) hb hc hd, rfl, rfl⟩

/-- Where a well-formed sequence stands, the decoder takes it off. -/
theorem Sequence.decodePoint_eq {a : UInt8} {seq : List UInt8} {n : Nat} (h : Sequence (a :: seq) n)
    (more : List UInt8) :
    decodePoint false a (seq ++ more) = .point (CodePoint.ofNat n) (seq.length + 1) := by
  have hlength (length : Nat) := (sequenceLength?_eq_some_iff a length).mpr
  cases h with
  | one hrange => simp [decodePoint, hlength 1 (.inl ⟨rfl, hrange⟩)]
  | two hlow hhigh hb => simp [decodePoint, hlength 2 (.inr (.inl ⟨rfl, hlow, hhigh⟩)), hb]
  | three hlow hhigh hb hc =>
    simp [decodePoint, hlength 3 (.inr (.inr (.inl ⟨rfl, hlow, hhigh⟩))), hb, hc]
  | four hlow hhigh hb hc hd =>
    simp [decodePoint, hlength 4 (.inr (.inr (.inr ⟨rfl, hlow, hhigh⟩))), hb, hc, hd]

/-! ## 3. Code points -/

theorem val_ofNat {n : Nat} (h : n < 0x110000) : (CodePoint.ofNat n).val = n := Nat.mod_eq_of_lt h

/-- A sequence stands for a code point that is no surrogate half. -/
theorem Sequence.bounds {seq : List UInt8} {n : Nat} (h : Sequence seq n) :
    n < 0x110000 ∧ ¬ (0xD800 ≤ n ∧ n ≤ 0xDFFF) := by
  cases h with
  | one hrange => omega
  | two hlow hhigh hb =>
    rw [isSecond_iff] at hb
    unfold low6
    omega
  | three hlow hhigh hb hc =>
    rw [isSecond_iff] at hb
    unfold low6
    omega
  | four hlow hhigh hb hc hd =>
    rw [isSecond_iff] at hb
    unfold low6
    omega

/-- **A sequence is what the code point that it stands for is written as.** -/
theorem Sequence.encodePoint_eq {seq : List UInt8} {n : Nat} (h : Sequence seq n) :
    encodePoint (CodePoint.ofNat n) = seq := by
  have hbyte (a : UInt8) (m : Nat) : UInt8.ofNat m = a ↔ m % 256 = a.toNat := by
    rw [← UInt8.toNat_inj, UInt8.toNat_ofNat']
  have hval : (CodePoint.ofNat n).val = n := val_ofNat h.bounds.1
  unfold encodePoint
  dsimp only
  rw [hval]
  clear hval
  cases h with
  | one hrange =>
    rw [if_pos hrange]
    simp
  | two hlow hhigh hb =>
    rw [isSecond_iff] at hb
    unfold low6 at *
    rw [if_neg (by omega), if_pos (by omega)]
    simp only [List.cons.injEq, hbyte, and_true]
    omega
  | three hlow hhigh hb hc =>
    rw [isSecond_iff] at hb
    rw [isContinuation_iff] at hc
    unfold low6 at *
    rw [if_neg (by omega), if_neg (by omega), if_pos (by omega)]
    simp only [List.cons.injEq, hbyte, and_true]
    omega
  | four hlow hhigh hb hc hd =>
    rw [isSecond_iff] at hb
    rw [isContinuation_iff] at hc hd
    unfold low6 at *
    rw [if_neg (by omega), if_neg (by omega), if_neg (by omega)]
    simp only [List.cons.injEq, hbyte, and_true]
    omega

/-- **A code point that is no surrogate half is written as a well-formed sequence.** -/
theorem sequence_encodePoint {p : CodePoint} (h : p.isSurrogate = false) :
    Sequence (encodePoint p) p.val := by
  have hp : p.val < 0x110000 := p.isLt
  replace h : ¬ (0xD800 ≤ p.val ∧ p.val ≤ 0xDFFF) := by
    simpa [CodePoint.isSurrogate] using h
  have hindex {seq : List UInt8} {m n : Nat} (heq : m = n) (hseq : Sequence seq m) :
      Sequence seq n := heq ▸ hseq
  unfold encodePoint
  dsimp only
  generalize p.val = n at hp h
  by_cases h1 : n < 0x80
  · rw [if_pos h1]
    refine hindex ?_ (.one ?_) <;> rw [UInt8.toNat_ofNat'] <;> omega
  rw [if_neg h1]
  by_cases h2 : n < 0x800
  · rw [if_pos h2]
    refine hindex ?_ (.two ?_ ?_ ?_)
    all_goals
      simp only [low6, isSecond_iff, UInt8.toNat_ofNat']
      omega
  rw [if_neg h2]
  by_cases h3 : n < 0x10000
  · rw [if_pos h3]
    refine hindex ?_ (.three ?_ ?_ ?_ ?_)
    all_goals
      simp only [low6, isSecond_iff, isContinuation_iff, UInt8.toNat_ofNat']
      omega
  · rw [if_neg h3]
    refine hindex ?_ (.four ?_ ?_ ?_ ?_ ?_)
    all_goals
      simp only [low6, isSecond_iff, isContinuation_iff, UInt8.toNat_ofNat']
      omega

/-! ## 4. Texts -/

/-- Where code points are written, the decoder takes the first one off. -/
theorem decodePoint_of_flatMap {a : UInt8} {rest : List UInt8} {ps : List CodePoint}
    (hps : ∀ p ∈ ps, p.isSurrogate = false) (h : a :: rest = ps.flatMap encodePoint) :
    ∃ p ps' length, ps = p :: ps' ∧ decodePoint false a rest = .point p length ∧
      rest.drop (length - 1) = ps'.flatMap encodePoint := by
  cases ps with
  | nil => cases h
  | cons p ps' =>
    have hsequence := sequence_encodePoint (hps p List.mem_cons_self)
    cases hwritten : encodePoint p with
    | nil =>
      rw [hwritten] at hsequence
      cases hsequence
    | cons b seq =>
      rw [List.flatMap_cons, hwritten, List.cons_append] at h
      rw [hwritten] at hsequence
      obtain ⟨rfl, rfl⟩ := List.cons.inj h
      refine ⟨p, ps', seq.length + 1, rfl, ?_, List.drop_left⟩
      rw [hsequence.decodePoint_eq, CodePoint.ofNat, Fin.ofNat_val_eq_self]

/-- Where the decoder is stuck, no text is written. -/
theorem not_written_of_stuck {a : UInt8} {rest : List UInt8} {piece : Piece}
    (hpiece : decodePoint false a rest = piece) (hno : ∀ p length, piece ≠ .point p length)
    {ps : List CodePoint} (hps : ∀ p ∈ ps, p.isSurrogate = false) :
    a :: rest ≠ ps.flatMap encodePoint := by
  intro hbytes
  obtain ⟨p, -, length, -, hpoint, -⟩ := decodePoint_of_flatMap hps hbytes
  exact hno p length (hpiece.symm.trans hpoint)

/-- The rest of the bytes decodes behind what has been decoded exactly when it is written as text
without surrogate halves. -/
theorem decodeFrom_eq_ok_iff {offset : Nat} {done : List CodePoint} {bytes : List UInt8} {t : Text} :
    decodeFrom false offset done bytes = .ok t ↔
      ∃ ps, (∀ p ∈ ps, p.isSurrogate = false) ∧ bytes = ps.flatMap encodePoint ∧
        t = ⟨done.reverse ++ ps⟩ := by
  fun_induction decodeFrom false offset done bytes with
  | case1 offset done =>
    constructor
    · intro h
      cases h
      exact ⟨[], List.forall_mem_nil _, rfl, by rw [List.append_nil]⟩
    · rintro ⟨ps, hps, hbytes, rfl⟩
      cases ps with
      | nil => rw [List.append_nil]
      | cons p ps' =>
        have hsequence := sequence_encodePoint (hps p List.mem_cons_self)
        rw [List.flatMap_cons] at hbytes
        rw [(List.append_eq_nil_iff.mp hbytes.symm).1] at hsequence
        cases hsequence
  | case2 offset done a rest p length hpoint ih =>
    rw [ih]
    constructor
    · rintro ⟨ps, hps, hrest, rfl⟩
      obtain ⟨seq, more, n, rfl, hsequence, rfl, rfl⟩ := exists_sequence_of_decodePoint hpoint
      rw [Nat.add_sub_cancel, List.drop_left] at hrest
      refine ⟨CodePoint.ofNat n :: ps, ?_, ?_, by simp⟩
      · refine List.forall_mem_cons.mpr ⟨?_, hps⟩
        obtain ⟨hbound, hnone⟩ := hsequence.bounds
        simpa [CodePoint.isSurrogate, val_ofNat hbound] using hnone
      · rw [List.flatMap_cons, hsequence.encodePoint_eq, ← hrest, List.cons_append]
    · rintro ⟨ps, hps, hbytes, rfl⟩
      obtain ⟨q, ps', length', rfl, hpoint', hrest⟩ := decodePoint_of_flatMap hps hbytes
      cases hpoint.symm.trans hpoint'
      exact ⟨ps', fun r hr => hps r (List.mem_cons_of_mem _ hr), hrest, by simp⟩
  | case3 offset done a rest hpiece =>
    refine iff_of_false nofun ?_
    rintro ⟨ps, hps, hbytes, -⟩
    exact not_written_of_stuck hpiece nofun hps hbytes
  | case4 offset done a rest sound hpiece =>
    refine iff_of_false nofun ?_
    rintro ⟨ps, hps, hbytes, -⟩
    exact not_written_of_stuck hpiece nofun hps hbytes
  | case5 offset done a rest hpiece =>
    refine iff_of_false nofun ?_
    rintro ⟨ps, hps, hbytes, -⟩
    exact not_written_of_stuck hpiece nofun hps hbytes

/-- **Bytes decode to a text exactly when it encodes to them.** -/
theorem decode_eq_ok_iff {bytes : List UInt8} {t : Text} :
    decode bytes = .ok t ↔ encode? t = some bytes := by
  have hsurrogates : t.hasSurrogate = false ↔ ∀ p ∈ t.points, p.isSurrogate = false := by
    simp [Text.hasSurrogate]
  rw [decode, decodeFrom_eq_ok_iff, encode?]
  constructor
  · rintro ⟨ps, hps, rfl, rfl⟩
    rw [if_neg (by rw [hsurrogates.mpr hps]; exact Bool.false_ne_true)]
    rfl
  · intro h
    split at h
    · cases h
    next hnone =>
      cases h
      exact ⟨t.points, hsurrogates.mp (Bool.eq_false_iff.mpr hnone), rfl, rfl⟩

/-! ## 5. Files -/

/-- The bytes of a file spell a text: they are what it encodes to, possibly behind a byte order mark that
is no part of it.  A beginning of such a mark spells nothing. -/
inductive FileSpells : List UInt8 → Text → Prop
  | plain {bytes : List UInt8} {t : Text} : encode? t = some bytes → ¬ byteOrderMark <+: bytes →
      FileSpells bytes t
  | marked {bytes : List UInt8} {t : Text} : encode? t = some bytes →
      FileSpells (byteOrderMark ++ bytes) t
  | cutOff {bytes : List UInt8} : bytes <+: byteOrderMark → bytes.length < 3 →
      FileSpells bytes Text.empty

/-- A beginning of a byte order mark is written for no code point. -/
theorem eq_empty_of_cutOff {bytes : List UInt8} {t : Text} (hmark : bytes <+: byteOrderMark)
    (hshort : bytes.length < 3) (h : encode? t = some bytes) : t = Text.empty := by
  rw [← decode_eq_ok_iff, List.prefix_iff_eq_take.mp hmark] at h
  replace h : (decode (byteOrderMark.take bytes.length)).toOption = some t := by rw [h]; rfl
  rcases (by omega : bytes.length = 0 ∨ bytes.length = 1 ∨ bytes.length = 2) with hlength | hlength |
    hlength
  · rw [hlength, (by decide +kernel : (decode (byteOrderMark.take 0)).toOption = some Text.empty)] at h
    exact (Option.some.inj h).symm
  · rw [hlength, (by decide +kernel : (decode (byteOrderMark.take 1)).toOption = none)] at h
    cases h
  · rw [hlength, (by decide +kernel : (decode (byteOrderMark.take 2)).toOption = none)] at h
    cases h

/-- **A file decodes to a text exactly when its bytes spell it.** -/
theorem decodeFile_eq_ok_iff {bytes : List UInt8} {t : Text} :
    decodeFile bytes = .ok t ↔ FileSpells bytes t := by
  unfold decodeFile
  simp only [List.isPrefixOf_iff_prefix]
  constructor
  · intro h
    split at h
    next hcut =>
      cases h
      exact .cutOff hcut.2 hcut.1
    next =>
      split at h
      next hmark =>
        obtain ⟨rest, rfl⟩ := hmark
        exact .marked (decode_eq_ok_iff.mp h)
      next hmark => exact .plain (decode_eq_ok_iff.mp h) hmark
  · intro h
    cases h with
    | cutOff hmark hshort => rw [if_pos ⟨hshort, hmark⟩]
    | marked hwritten =>
      rw [if_neg (fun hcut => absurd hcut.1 (by simp [byteOrderMark])),
        if_pos (List.prefix_append _ _)]
      exact decode_eq_ok_iff.mpr hwritten
    | plain hwritten hunmarked =>
      rw [if_neg hunmarked]
      split
      next hcut => rw [eq_empty_of_cutOff hcut.2 hcut.1 hwritten]
      next => exact decode_eq_ok_iff.mpr hwritten

end WorkflowGate.Utf8

/-! ## 6. Line ends -/

namespace WorkflowGate.Text

/-- Line feeds are left alone, and so is everything that is no line end. -/
theorem unifyLineEnds_eq_self {t : Text} (h : ∀ p ∈ t.points, p.val ≠ 0x0D) : t.unifyLineEnds = t := by
  have hgo (ps done : List CodePoint) (hps : ∀ p ∈ ps, p.val ≠ 0x0D) :
      unifyLineEnds.go ps done = done.reverse ++ ps := by
    -- only where no carriage return stands does the case go on
    fun_induction unifyLineEnds.go ps done with
    | case1 => rw [List.append_nil]
    | case2 p done => simp [hps p List.mem_cons_self]
    | case3 p q rest done hreturn => exact absurd hreturn (hps p List.mem_cons_self)
    | case4 p q rest done hreturn => exact absurd hreturn (hps p List.mem_cons_self)
    | case5 p q rest done _ ih =>
      rw [ih fun r hr => hps r (List.mem_cons_of_mem p hr), List.reverse_cons, List.append_assoc]
      rfl
  exact congrArg Text.mk (hgo t.points [] h)

end WorkflowGate.Text
