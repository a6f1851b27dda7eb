/-
# Marks of colour that are left

One pass over a text takes out every mark that stands in it.  What stood on both sides of a mark then
stands side by side, and where a mark had been put into another one, it makes up a mark again: such a text
is *torn* (`Torn`).  So the pass leaves marks in some texts, and passing over what it leaves would change
it once more; the message of a record is no different.

The pass is told from the other side by `Interrupted`: what it goes over is what it leaves, with marks put
in.  Two facts carry the argument.  An escape begins a mark or belongs to none, so a text may be cut in
front of any escape (`dropColours_append_escape`); and each point that is left stands behind what was left
before it, with marks put in (`exists_of_dropColours`).

* `marked_dropColours_iff`: a mark is left exactly where one was torn;
* `dropColours_eq_self_iff`: only a text without marks is left as it is;
* `LogRecord.find?_message`: the message of a record is written as the pass leaves it;
* `withoutColours_marks`: **what one pass leaves of the marks of a text**, with `nestedMark_left` for a text
  that is torn.
-/
import WorkflowGate.Log.Format

namespace WorkflowGate

namespace Text

/-! ## 1. Marks -/

/-- What stands between the escape of a mark and its `m`: a bracket, then digits and semicolons. -/
def IsCore (ps : List CodePoint) : Prop :=
  ∃ digits, (∀ p ∈ digits, p.isAsciiDigit = true ∨ p = CodePoint.ofChar ';') ∧
    ps = CodePoint.ofChar '[' :: digits

/-- An escape, something, and an `m`. -/
def enclosed (ps : List CodePoint) : List CodePoint := escapePoint :: (ps ++ [CodePoint.ofChar 'm'])

/-- Somewhere there is a mark. -/
def Marked (ps : List CodePoint) : Prop := ∃ core, IsCore core ∧ enclosed core <:+: ps

/-- The second list is the first with marks put in, wherever and as many as one likes. -/
inductive Interrupted : List CodePoint → List CodePoint → Prop
  | nil : Interrupted [] []
  | point {p : CodePoint} {kept ps : List CodePoint} :
      Interrupted kept ps → Interrupted (p :: kept) (p :: ps)
  | mark {core kept ps : List CodePoint} :
      IsCore core → Interrupted kept ps → Interrupted kept (enclosed core ++ ps)

/-- Somewhere there is a mark with at least one other put in between its escape and its `m`. -/
def Torn (ps : List CodePoint) : Prop :=
  ∃ core torn, IsCore core ∧ Interrupted core torn ∧ torn ≠ core ∧ enclosed torn <:+: ps

theorem isColourDigit_iff (p : CodePoint) :
    isColourDigit p = true ↔ p.isAsciiDigit = true ∨ p = CodePoint.ofChar ';' := by
  simp [isColourDigit]

theorem enclosed_append (ps behind : List CodePoint) :
    enclosed ps ++ behind = escapePoint :: (ps ++ CodePoint.ofChar 'm' :: behind) := by
  simp [enclosed]

/-- Neither an escape nor an `m` stands in between. -/
theorem IsCore.plain {core : List CodePoint} (h : IsCore core) :
    escapePoint ∉ core ∧ CodePoint.ofChar 'm' ∉ core := by
  obtain ⟨digits, hdigits, rfl⟩ := h
  constructor
  all_goals
    rintro hmem
    rcases List.mem_cons.mp hmem with h | h
    · exact absurd h (by decide)
    · exact absurd (hdigits _ h) (by decide)

/-- An escape behind what lies between escape and `m` of a mark stands behind its `m` as well. -/
theorem IsCore.escape_behind {core behind before after : List CodePoint} (h : IsCore core)
    (heq : core ++ CodePoint.ofChar 'm' :: behind = before ++ escapePoint :: after) :
    ∃ between, before = core ++ CodePoint.ofChar 'm' :: between := by
  have hend : CodePoint.ofChar 'm' ≠ escapePoint := by decide
  rcases List.append_eq_append_iff.mp heq with ⟨rest, hbefore, hrest⟩ | ⟨rest, hcore, hrest⟩
  · cases rest with
    | nil => exact absurd (List.cons.inj hrest).1 hend
    | cons m between =>
      obtain ⟨rfl, -⟩ := List.cons.inj hrest
      exact ⟨between, hbefore⟩
  · cases rest with
    | nil => exact absurd (List.cons.inj hrest).1.symm hend
    | cons e between =>
      obtain ⟨rfl, -⟩ := List.cons.inj hrest
      exact absurd (hcore ▸ List.mem_append_right _ List.mem_cons_self) h.plain.1

/-- **A text begins with a mark exactly when what is behind it can be told.** -/
theorem afterColour?_eq_some_iff {ps behind : List CodePoint} :
    afterColour? ps = some behind ↔ ∃ core, IsCore core ∧ ps = enclosed core ++ behind := by
  constructor
  · intro h
    match ps with
    | [] => cases h
    | [_] => cases h
    | p :: q :: rest =>
      simp only [afterColour?, Option.ite_none_right_eq_some, Bool.and_eq_true,
        decide_eq_true_eq] at h
      obtain ⟨⟨rfl, rfl⟩, hend⟩ := h
      cases hrest : rest.dropWhile isColourDigit with
      | nil =>
        rw [hrest] at hend
        cases hend
      | cons m tail =>
        rw [hrest] at hend
        simp only [afterColourEnd?, Option.ite_none_right_eq_some, Option.some.injEq] at hend
        obtain ⟨rfl, rfl⟩ := hend
        refine ⟨CodePoint.ofChar '[' :: rest.takeWhile isColourDigit, ⟨_, ?_, rfl⟩, ?_⟩
        · exact fun p hp => (isColourDigit_iff p).mp (List.all_eq_true.mp List.all_takeWhile p hp)
        · rw [enclosed_append, List.cons_append, ← hrest, List.takeWhile_append_dropWhile]
  · rintro ⟨core, ⟨digits, hdigits, rfl⟩, rfl⟩
    have hend : isColourDigit (CodePoint.ofChar 'm') = false := by decide
    have hall : ∀ p ∈ digits, isColourDigit p = true :=
      fun p hp => (isColourDigit_iff p).mpr (hdigits p hp)
    rw [enclosed_append, List.cons_append, afterColour?, List.dropWhile_append_of_pos hall]
    simp [hend, afterColourEnd?]

/-! ## 2. One pass -/

theorem dropColours_of_some {ps behind : List CodePoint} (h : afterColour? ps = some behind) :
    dropColours ps = dropColours behind := by
  cases ps with
  | nil => cases h
  | cons p rest =>
    rw [dropColours]
    split
    next other hother =>
      rw [h] at hother
      cases hother
      rfl
    next hnone =>
      rw [h] at hnone
      cases hnone

theorem dropColours_of_none {p : CodePoint} {rest : List CodePoint}
    (h : afterColour? (p :: rest) = none) : dropColours (p :: rest) = p :: dropColours rest := by
  rw [dropColours]
  split
  next behind hbehind =>
    rw [h] at hbehind
    cases hbehind
  next => rfl

/-- A mark is taken out. -/
theorem dropColours_enclosed {core : List CodePoint} (h : IsCore core) (ps : List CodePoint) :
    dropColours (enclosed core ++ ps) = dropColours ps :=
  dropColours_of_some (afterColour?_eq_some_iff.mpr ⟨core, h, rfl⟩)

/-- A point that is no escape is left. -/
theorem dropColours_of_ne {p : CodePoint} (hp : p ≠ escapePoint) (rest : List CodePoint) :
    dropColours (p :: rest) = p :: dropColours rest := by
  refine dropColours_of_none (Option.eq_none_iff_forall_ne_some.mpr fun behind hbehind => ?_)
  obtain ⟨core, -, hps⟩ := afterColour?_eq_some_iff.mp hbehind
  exact hp (List.cons.inj hps).1

/-- **Marks are taken out, and nothing else.** -/
theorem interrupted_dropColours (ps : List CodePoint) : Interrupted (dropColours ps) ps := by
  fun_induction dropColours ps with
  | case1 => exact .nil
  | case2 p rest behind h ih =>
    obtain ⟨core, hcore, hps⟩ := afterColour?_eq_some_iff.mp h
    rw [hps]
    exact .mark hcore ih
  | case3 p rest h ih => exact .point ih

/-- What is put in front of an escape is passed over on its own: no mark begins there and goes on behind
it. -/
theorem dropColours_append_escape (before ps : List CodePoint) :
    dropColours (before ++ escapePoint :: ps) =
      dropColours before ++ dropColours (escapePoint :: ps) := by
  fun_induction dropColours before with
  | case1 => rfl
  | case2 p rest behind h ih =>
    obtain ⟨core, hcore, hps⟩ := afterColour?_eq_some_iff.mp h
    rw [hps, List.append_assoc, dropColours_enclosed hcore, ih]
  | case3 p rest h ih =>
    refine (dropColours_of_none ?_).trans (congrArg (p :: ·) ih)
    refine Option.eq_none_iff_forall_ne_some.mpr fun behind hbehind => ?_
    obtain ⟨core, hcore, hps⟩ := afterColour?_eq_some_iff.mp hbehind
    rw [enclosed_append] at hps
    obtain ⟨rfl, hrest⟩ := List.cons.inj hps
    obtain ⟨between, rfl⟩ := hcore.escape_behind hrest.symm
    have hsome : afterColour? (escapePoint :: (core ++ CodePoint.ofChar 'm' :: between)) = some between :=
      afterColour?_eq_some_iff.mpr ⟨core, hcore, (enclosed_append core between).symm⟩
    rw [h] at hsome
    cases hsome

/-- What is left of interrupted points are the points, if no escape is among them. -/
theorem dropColours_interrupted {kept ps : List CodePoint} (h : Interrupted kept ps)
    (hplain : escapePoint ∉ kept) (after : List CodePoint) :
    dropColours (ps ++ after) = kept ++ dropColours after := by
  induction h with
  | nil => rfl
  | @point p kept ps _ ih =>
    rw [List.mem_cons, not_or] at hplain
    rw [List.cons_append, dropColours_of_ne (Ne.symm hplain.1), ih hplain.2, List.cons_append]
  | mark hcore _ ih => rw [List.append_assoc, dropColours_enclosed hcore, ih hplain]

/-- A point that is left stands behind what was left before it, with marks put in. -/
theorem exists_of_dropColours {ps before after : List CodePoint} {p : CodePoint}
    (h : dropColours ps = before ++ p :: after) :
    ∃ torn rest, ps = torn ++ p :: rest ∧ Interrupted before torn ∧
      afterColour? (p :: rest) = none ∧ dropColours rest = after := by
  fun_induction dropColours ps generalizing before with
  | case1 => cases before <;> cases h
  | case2 q rest behind hbehind ih =>
    obtain ⟨core, hcore, hps⟩ := afterColour?_eq_some_iff.mp hbehind
    obtain ⟨torn, last, rfl, htorn, hlast⟩ := ih h
    exact ⟨enclosed core ++ torn, last, by rw [hps, List.append_assoc], .mark hcore htorn, hlast⟩
  | case3 q rest hnone ih =>
    cases before with
    | nil =>
      obtain ⟨rfl, hafter⟩ := List.cons.inj h
      exact ⟨[], rest, rfl, .nil, hnone, hafter⟩
    | cons b before =>
      obtain ⟨rfl, hafter⟩ := List.cons.inj h
      obtain ⟨torn, last, rfl, htorn, hlast⟩ := ih hafter
      exact ⟨q :: torn, last, rfl, .point htorn, hlast⟩

/-- Interrupted points are the points, or an escape stands among them behind some of the points. -/
theorem Interrupted.eq_or_exists {kept ps : List CodePoint} (h : Interrupted kept ps) :
    ps = kept ∨ ∃ before after, before <+: kept ∧ ps = before ++ escapePoint :: after := by
  induction h with
  | nil => exact .inl rfl
  | @point p kept ps _ ih =>
    rcases ih with rfl | ⟨before, after, hbefore, rfl⟩
    · exact .inl rfl
    · exact .inr ⟨p :: before, after, (List.prefix_cons_inj p).mpr hbefore, rfl⟩
  | @mark core kept ps _ _ _ =>
    exact .inr ⟨[], core ++ CodePoint.ofChar 'm' :: ps, List.nil_prefix, enclosed_append core ps⟩

/-- A mark that has been torn is none. -/
theorem afterColour?_of_torn {core torn : List CodePoint} (hcore : IsCore core)
    (htorn : Interrupted core torn) (hne : torn ≠ core) (after : List CodePoint) :
    afterColour? (escapePoint :: (torn ++ after)) = none := by
  refine Option.eq_none_iff_forall_ne_some.mpr fun behind hbehind => ?_
  obtain ⟨other, hother, hps⟩ := afterColour?_eq_some_iff.mp hbehind
  rw [enclosed_append] at hps
  rcases htorn.eq_or_exists with heq | ⟨before, rest, hbefore, rfl⟩
  · exact hne heq
  · rw [List.append_assoc, List.cons_append] at hps
    obtain ⟨between, rfl⟩ := hother.escape_behind (List.cons.inj hps).2.symm
    exact hcore.plain.2 (hbefore.mem (List.mem_append_right _ List.mem_cons_self))

/-! ## 3. What is left -/

/-- **A mark is left exactly where one was torn.** -/
theorem marked_dropColours_iff (ps : List CodePoint) : Marked (dropColours ps) ↔ Torn ps := by
  constructor
  · rintro ⟨core, hcore, before, after, h⟩
    rw [List.append_assoc, enclosed_append] at h
    obtain ⟨ahead, rest, rfl, -, hnone, hrest⟩ := exists_of_dropColours h.symm
    obtain ⟨torn, last, rfl, htorn, -, -⟩ := exists_of_dropColours hrest
    refine ⟨core, torn, hcore, htorn, ?_, ahead, last, ?_⟩
    · rintro rfl
      have hsome := afterColour?_eq_some_iff.mpr ⟨torn, hcore, (enclosed_append torn last).symm⟩
      rw [hnone] at hsome
      cases hsome
    · rw [List.append_assoc, enclosed_append]
  · rintro ⟨core, torn, hcore, htorn, hne, before, after, rfl⟩
    have hnone := afterColour?_of_torn hcore htorn hne (CodePoint.ofChar 'm' :: after)
    have hend : CodePoint.ofChar 'm' ≠ escapePoint := by decide
    refine ⟨core, hcore, dropColours before, dropColours after, ?_⟩
    calc dropColours before ++ enclosed core ++ dropColours after
        = dropColours before ++ escapePoint :: (core ++ CodePoint.ofChar 'm' :: dropColours after) := by
          rw [List.append_assoc, enclosed_append]
      _ = dropColours before ++
            escapePoint :: dropColours (torn ++ CodePoint.ofChar 'm' :: after) := by
          rw [dropColours_interrupted htorn hcore.plain.1, dropColours_of_ne hend]
      _ = dropColours before ++
            dropColours (escapePoint :: (torn ++ CodePoint.ofChar 'm' :: after)) := by
          rw [dropColours_of_none hnone]
      _ = dropColours (before ++ enclosed torn ++ after) := by
          rw [← dropColours_append_escape, List.append_assoc, enclosed_append]

theorem dropColours_length_le (ps : List CodePoint) : (dropColours ps).length ≤ ps.length := by
  fun_induction dropColours ps with
  | case1 => exact Nat.le_refl _
  | case2 p rest behind h ih => exact Nat.le_trans ih (Nat.le_of_lt (afterColour?_length h))
  | case3 p rest h ih => exact Nat.succ_le_succ ih

/-- **Only a text without marks is left as it is.** -/
theorem dropColours_eq_self_iff (ps : List CodePoint) : dropColours ps = ps ↔ ¬ Marked ps := by
  constructor
  · rintro h ⟨core, hcore, before, after, rfl⟩
    have hpass : dropColours (before ++ enclosed core ++ after) =
        dropColours before ++ dropColours after := by
      rw [List.append_assoc, enclosed_append, dropColours_append_escape, ← enclosed_append,
        dropColours_enclosed hcore]
    have hlength := congrArg List.length (hpass.symm.trans h)
    have hbefore := dropColours_length_le before
    have hafter := dropColours_length_le after
    simp only [List.length_append, enclosed, List.length_cons] at hlength
    omega
  · intro h
    fun_induction dropColours ps with
    | case1 => rfl
    | case2 p rest behind hbehind =>
      obtain ⟨core, hcore, hps⟩ := afterColour?_eq_some_iff.mp hbehind
      exact absurd ⟨core, hcore, hps ▸ (List.prefix_append _ _).isInfix⟩ h
    | case3 p rest _ ih =>
      refine congrArg (p :: ·) (ih fun hmarked => h ?_)
      obtain ⟨core, hcore, hinfix⟩ := hmarked
      exact ⟨core, hcore, hinfix.trans (List.suffix_cons p rest).isInfix⟩

end Text

/-! ## 4. The message of a record -/

/-- Setting fields leaves the others as they are. -/
theorem Trace.find?_merge_of_not_mem {fields : List (Text × Value)} {name : Text}
    (h : name ∉ fields.map Prod.fst) (t : Trace) : (t.merge fields).find? name = t.find? name := by
  unfold Trace.merge
  induction fields generalizing t with
  | nil => rfl
  | cons field rest ih =>
    rw [List.map_cons, List.mem_cons, not_or] at h
    rw [List.foldl_cons, ih h.2, OrderedMap.find?_insert_of_ne _ _ (Ne.symm h.1)]

/-- Fields with different names are found where they have been set. -/
theorem Trace.find?_merge {fields : List (Text × Value)} (h : (fields.map Prod.fst).Nodup) (t : Trace)
    (name : Text) :
    (t.merge fields).find? name = (OrderedMap.lookup name fields).or (t.find? name) := by
  induction fields generalizing t with
  | nil => rfl
  | cons field rest ih =>
    obtain ⟨other, v⟩ := field
    rw [List.map_cons, List.nodup_cons] at h
    rw [Trace.merge, List.foldl_cons, ← Trace.merge, OrderedMap.lookup]
    by_cases hname : other = name
    · subst hname
      rw [Trace.find?_merge_of_not_mem h.1, OrderedMap.find?_insert_self, if_pos rfl]
      rfl
    · rw [ih h.2, OrderedMap.find?_insert_of_ne _ _ hname, if_neg hname]

namespace LogRecord

theorem message_not_mem_shownAttributes (r : LogRecord) :
    Text.ofString "message" ∉ r.shownAttributes.map Prod.fst := by
  intro h
  obtain ⟨field, hfield, hname⟩ := List.mem_map.mp h
  obtain ⟨name, hwritten, hsome⟩ := List.mem_filterMap.mp hfield
  split at hsome
  · cases hsome
  · cases hsome
    have hmessage : name = "message" := Text.ofString_inj.mp hname
    exact absurd hwritten (hmessage ▸ by decide)

/-- A record is written with its message, the marks taken out; a field of that name that the run brings
takes its place. -/
theorem find?_message (time : Text) (trace : Trace) (r : LogRecord) :
    (r.fields time trace).find? "message" =
      some ((trace.find? "message").getD (.text r.message.withoutColours)) := by
  have hbase : (Trace.merge OrderedMap.empty
      [("timestamp", .text time), ("level", .text r.levelWord.toLower), ("logger", .text r.channel),
        ("message", .text r.message.withoutColours)]).find? "message" =
      some (.text r.message.withoutColours) := by
    simp [Trace.find?_merge, OrderedMap.lookup]
  rw [fields, Trace.find?_merge_of_not_mem, Trace.find?_merge_of_not_mem r.message_not_mem_shownAttributes,
    Trace.find?_merge trace.distinct, hbase, Option.or_some]
  · rfl
  · cases r.exception <;> simp

end LogRecord

namespace Text

/-- **What one pass leaves of the marks of a text.**  Marks are taken out and nothing else; a mark is left
exactly where one was torn, and where none was a second pass changes nothing.  The message of a record is
written in just this way, unless the run brings a field of that name. -/
theorem withoutColours_marks (t : Text) :
    Interrupted t.withoutColours.points t.points ∧
      (Marked t.withoutColours.points ↔ Torn t.points) ∧
      (t.withoutColours.withoutColours = t.withoutColours ↔ ¬ Torn t.points) ∧
      ∀ (time : Text) (trace : Trace) (r : LogRecord),
        (({ r with message := t } : LogRecord).fields time trace).find? "message" =
          some ((trace.find? "message").getD (.text t.withoutColours)) := by
  have hleft : Marked t.withoutColours.points ↔ Torn t.points := marked_dropColours_iff t.points
  refine ⟨interrupted_dropColours t.points, hleft, ?_, fun time trace r => ?_⟩
  · rw [← hleft, ← dropColours_eq_self_iff]
    exact ⟨congrArg points, congrArg Text.mk⟩
  · exact LogRecord.find?_message time trace _

/-- An escape and a bracket, then a whole mark, then an `m`. -/
def nestedMark : Text := "\x1b[\x1b[mm"

/-- Once the inner mark is taken out, what stood around it is a mark. -/
theorem nestedMark_left :
    Marked nestedMark.withoutColours.points ∧
      nestedMark.withoutColours.withoutColours ≠ nestedMark.withoutColours := by
  have hpass : nestedMark.withoutColours = "\x1b[m" := by cbv
  have hagain : Text.withoutColours "\x1b[m" = Text.empty := by cbv
  rw [hpass, hagain]
  exact ⟨⟨[CodePoint.ofChar '['], ⟨[], by simp, rfl⟩, [], [], rfl⟩, by decide⟩

end Text

end WorkflowGate
