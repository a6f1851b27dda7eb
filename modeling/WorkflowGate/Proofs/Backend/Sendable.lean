/-
# Which values can be sent

What a request carries is written as JSON and sent as UTF-8.  Whether that can be done is decided at
the leaves of the values: an integer with too many digits, a float that is no finite number and text
with half of a surrogate pair keep a value from being sent, and nothing else does.

Plain data has no float of that kind, since null travels in its place.  So the values of a form may be
infinite, or no number at all, and nothing changes.

* `Text.hasSurrogate_ofString`: a string has no surrogates, so only texts bring them in;
* `hasSurrogate_writeAt`: what is written has a surrogate exactly when a leaf has one;
* `succeeds_checkSendable_iff`: **a value can be sent exactly when all its leaves can**;
* `finite_of_mem_leaves_portable`: no float among the leaves of plain data is NaN or infinite;
* `portable_withNulls`: **plain data is the same with null in the place of such floats**.
-/
import Mathlib.Tactic.SplitIfs
import Mathlib.Tactic.Tauto
import WorkflowGate.Backend.Request
import WorkflowGate.Proofs.Graph.Readable
import WorkflowGate.Proofs.Result

namespace WorkflowGate

open Result

/-! ## 1. Surrogates in texts -/

/-- No character is half of a surrogate pair. -/
theorem CodePoint.isSurrogate_ofChar (c : Char) : (CodePoint.ofChar c).isSurrogate = false := by
  have h := c.valid
  unfold UInt32.isValidChar Nat.isValidChar at h
  have hc : c.toNat = c.val.toNat := rfl
  simp only [CodePoint.isSurrogate, CodePoint.ofChar_val, Bool.and_eq_false_iff,
    decide_eq_false_iff_not]
  omega

namespace Text

@[simp] theorem hasSurrogate_empty : empty.hasSurrogate = false := rfl

@[simp] theorem hasSurrogate_append (s t : Text) :
    (s ++ t).hasSurrogate = (s.hasSurrogate || t.hasSurrogate) :=
  List.any_append

/-- **A string has no surrogates.** -/
@[simp] theorem hasSurrogate_ofString (s : String) : (ofString s).hasSurrogate = false := by
  simp [hasSurrogate, ofString, CodePoint.isSurrogate_ofChar]

@[simp] theorem hasSurrogate_concat (pieces : List Text) :
    (concat pieces).hasSurrogate = pieces.any hasSurrogate :=
  List.any_flatMap

/-- A separator without surrogates brings none in. -/
theorem hasSurrogate_join {separator : Text} (h : separator.hasSurrogate = false)
    (pieces : List Text) : (join separator pieces).hasSurrogate = pieces.any hasSurrogate := by
  rw [join, hasSurrogate_concat]
  induction pieces with
  | nil => rfl
  | cons piece rest ih =>
    cases rest with
    | nil => rfl
    | cons next rest =>
      rw [List.intersperse_cons_cons, List.any_cons, List.any_cons, h, Bool.false_or, ih]
      rfl

end Text

namespace Json

/-- Code points in front of the surrogates are none. -/
theorem isSurrogate_of_lt {p : CodePoint} (h : p.val < 0xD800) : p.isSurrogate = false := by
  simp only [CodePoint.isSurrogate, Bool.and_eq_false_iff, decide_eq_false_iff_not]
  omega

/-- Escapes are ASCII, and only what is no surrogate is escaped. -/
theorem hasSurrogate_escapePoint (p : CodePoint) :
    (escapePoint false p).hasSurrogate = p.isSurrogate := by
  have hchar {c : Char} (hp : p = c) : p.isSurrogate = false := by
    rw [hp, CodePoint.isSurrogate_ofChar]
  simp only [escapePoint, Bool.false_and, Bool.false_eq_true, if_false]
  split_ifs with hquote hslash hfeed hreturn htab hback hform hcontrol
  · rw [hchar hquote, Text.hasSurrogate_ofString]
  · rw [hchar hslash, Text.hasSurrogate_ofString]
  · rw [hchar hfeed, Text.hasSurrogate_ofString]
  · rw [hchar hreturn, Text.hasSurrogate_ofString]
  · rw [hchar htab, Text.hasSurrogate_ofString]
  · rw [isSurrogate_of_lt (by omega), Text.hasSurrogate_ofString]
  · rw [isSurrogate_of_lt (by omega), Text.hasSurrogate_ofString]
  · rw [isSurrogate_of_lt (by omega), Text.hasSurrogate_append, Text.hasSurrogate_ofString,
      Text.hex, Text.hasSurrogate_ofString, Bool.or_false]
  · exact Bool.or_false _

/-- A string in quotes has the surrogates of its text. -/
@[simp] theorem hasSurrogate_writeString (t : Text) :
    (writeString false t).hasSurrogate = t.hasSurrogate := by
  simp only [writeString, Text.hasSurrogate_append, Text.hasSurrogate_ofString,
    Text.hasSurrogate_concat, Bool.false_or, Bool.or_false, List.any_map]
  exact congrArg t.points.any (funext hasSurrogate_escapePoint)

/-- Parts on one line have the surrogates that they have by themselves. -/
theorem hasSurrogate_enclose (depth : Nat) (opening closing : String) (parts : List Text) :
    (enclose .compact depth opening closing parts).hasSurrogate =
      parts.any Text.hasSurrogate := by
  unfold enclose
  split
  next h => simp [List.isEmpty_iff.mp h]
  next h =>
    have hseparator : (Text.ofString Layout.compact.itemSeparator ++
        lineBreak .compact (depth + 1)).hasSurrogate = false := rfl
    have hbreak (depth : Nat) : (lineBreak .compact depth).hasSurrogate = false := rfl
    simp only [Text.hasSurrogate_append, Text.hasSurrogate_ofString, hbreak,
      Text.hasSurrogate_join hseparator, Bool.false_or, Bool.or_false]

end Json

/-! ## 2. Leaves -/

namespace Value

mutual

/-- The values within a value that hold no others, keys among them. -/
def leaves : Value → List Value
  | .list items => itemLeaves items
  | .tuple items => itemLeaves items
  | .mapping es => entryLeaves es
  | v => [v]

/-- The leaves of values. -/
def itemLeaves : List Value → List Value
  | [] => []
  | v :: rest => v.leaves ++ itemLeaves rest

/-- The leaves of entries. -/
def entryLeaves : List (Key × Value) → List Value
  | [] => []
  | (k, v) :: rest => ofKey k :: (v.leaves ++ entryLeaves rest)

end

theorem mem_itemLeaves_iff (items : List Value) (leaf : Value) :
    leaf ∈ itemLeaves items ↔ ∃ v ∈ items, leaf ∈ v.leaves := by
  induction items with
  | nil => simp [itemLeaves]
  | cons v rest ih => simp [itemLeaves, ih]

theorem mem_entryLeaves_iff (es : List (Key × Value)) (leaf : Value) :
    leaf ∈ entryLeaves es ↔ ∃ e ∈ es, leaf = ofKey e.1 ∨ leaf ∈ e.2.leaves := by
  induction es with
  | nil => simp [entryLeaves]
  | cons e rest ih => simp [entryLeaves, ih, or_assoc]

/-- A leaf can be written: an integer does not have too many digits, and a float is a finite
number. -/
def WritableLeaf : Value → Prop
  | .float x => x.isFinite = true
  | v => v.Writable

/-- A leaf brings surrogates in. -/
def hasSurrogateLeaf : Value → Bool
  | .text t => t.hasSurrogate
  | _ => false

/-- A leaf keeps a value from being written, or does not. -/
theorem unwritableInteger?_eq_none_iff (i : Int) :
    unwritableInteger? i = none ↔ (int i).WritableLeaf := by
  show _ ↔ (int i).Writable
  rw [← succeeds_writeInteger_iff, unwritableInteger?]
  cases writeInteger i <;> simp

theorem unwritable?_of_float_iff (x : Binary64) :
    (float x).unwritable? = none ↔ (float x).WritableLeaf := by
  rw [unwritable?, WritableLeaf]
  cases x.isFinite <;> simp

/-- A key is written like the value that it is. -/
theorem unwritableKey?_eq_none_iff (k : Key) : k.unwritable? = none ↔ (ofKey k).WritableLeaf := by
  cases k with
  | int i => exact unwritableInteger?_eq_none_iff i
  | float x => exact unwritable?_of_float_iff x
  | text _ | bool _ | null => exact iff_of_true rfl trivial

mutual

/-- **What keeps a value from being written is one of its leaves.** -/
theorem unwritable?_eq_none_iff (v : Value) :
    v.unwritable? = none ↔ ∀ leaf ∈ v.leaves, leaf.WritableLeaf := by
  cases v with
  | int i => simp only [unwritable?, unwritableInteger?_eq_none_iff, leaves, List.forall_mem_singleton]
  | float x => simp only [unwritable?_of_float_iff, leaves, List.forall_mem_singleton]
  | list items => exact firstUnwritable?_eq_none_iff items
  | tuple items => exact firstUnwritable?_eq_none_iff items
  | mapping es => exact entryUnwritable?_eq_none_iff es
  | null | bool _ | text _ => simp [unwritable?, leaves, WritableLeaf, Writable]

theorem firstUnwritable?_eq_none_iff (items : List Value) :
    firstUnwritable? items = none ↔ ∀ leaf ∈ itemLeaves items, leaf.WritableLeaf := by
  cases items with
  | nil => simp [firstUnwritable?, itemLeaves]
  | cons v rest =>
    rw [firstUnwritable?, itemLeaves, Option.or_eq_none_iff, List.forall_mem_append,
      unwritable?_eq_none_iff v, firstUnwritable?_eq_none_iff rest]

theorem entryUnwritable?_eq_none_iff (es : List (Key × Value)) :
    entryUnwritable? es = none ↔ ∀ leaf ∈ entryLeaves es, leaf.WritableLeaf := by
  cases es with
  | nil => simp [entryUnwritable?, entryLeaves]
  | cons e rest =>
    rw [entryUnwritable?, entryLeaves, Option.or_eq_none_iff, Option.or_eq_none_iff,
      List.forall_mem_cons, List.forall_mem_append, unwritableKey?_eq_none_iff e.1,
      unwritable?_eq_none_iff e.2, entryUnwritable?_eq_none_iff rest]

end

/-- Only the text of a text has surrogates. -/
theorem hasSurrogate_keyText (k : Key) :
    (Json.keyText k).hasSurrogate = hasSurrogateLeaf (ofKey k) := by
  cases k with
  | text t => rfl
  | int _ | float _ | bool _ | null => exact Text.hasSurrogate_ofString _

mutual

/-- **What is written has a surrogate exactly when a leaf has one.** -/
theorem hasSurrogate_writeAt (depth : Nat) (v : Value) :
    (Json.writeAt .compact depth v).hasSurrogate = v.leaves.any hasSurrogateLeaf := by
  cases v with
  | text t =>
    simp only [leaves, List.any_cons, List.any_nil, Bool.or_false]
    exact Json.hasSurrogate_writeString t
  | list items =>
    rw [Json.writeAt, Json.hasSurrogate_enclose, leaves, any_hasSurrogate_writeItems]
  | tuple items =>
    rw [Json.writeAt, Json.hasSurrogate_enclose, leaves, any_hasSurrogate_writeItems]
  | mapping es =>
    rw [Json.writeAt, Json.hasSurrogate_enclose, leaves, any_hasSurrogate_writeEntries]
  | null | bool _ | int _ | float _ => exact Text.hasSurrogate_ofString _

theorem any_hasSurrogate_writeItems (depth : Nat) (items : List Value) :
    (Json.writeItems .compact depth items).any Text.hasSurrogate =
      (itemLeaves items).any hasSurrogateLeaf := by
  cases items with
  | nil => rfl
  | cons v rest =>
    rw [Json.writeItems, itemLeaves, List.any_cons, List.any_append, hasSurrogate_writeAt depth v,
      any_hasSurrogate_writeItems depth rest]

theorem any_hasSurrogate_writeEntries (depth : Nat) (es : List (Key × Value)) :
    (Json.writeEntries .compact depth es).any Text.hasSurrogate =
      (entryLeaves es).any hasSurrogateLeaf := by
  cases es with
  | nil => rfl
  | cons e rest =>
    have hkey : (Json.writeString Json.Layout.compact.asciiOnly (Json.keyText e.1)).hasSurrogate =
        hasSurrogateLeaf (ofKey e.1) :=
      (Json.hasSurrogate_writeString _).trans (hasSurrogate_keyText e.1)
    rw [Json.writeEntries, entryLeaves, List.any_cons, List.any_cons, List.any_append,
      Text.hasSurrogate_append, Text.hasSurrogate_append, Text.hasSurrogate_ofString,
      Bool.or_false, hkey, hasSurrogate_writeAt depth e.2, any_hasSurrogate_writeEntries depth rest,
      Bool.or_assoc]

end

/-- A leaf can be written, and sent as UTF-8. -/
def SendableLeaf (leaf : Value) : Prop := leaf.WritableLeaf ∧ leaf.hasSurrogateLeaf = false

/-- **A value can be sent exactly when all its leaves can.** -/
theorem succeeds_checkSendable_iff (v : Value) :
    Succeeds v.checkSendable ↔ ∀ leaf ∈ v.leaves, leaf.SendableLeaf := by
  have hsplit : (∀ leaf ∈ v.leaves, leaf.SendableLeaf) ↔
      v.unwritable? = none ∧ (Json.write .compact v).hasSurrogate = false := by
    rw [unwritable?_eq_none_iff, Json.write, hasSurrogate_writeAt, List.any_eq_false]
    simp only [Bool.not_eq_true]
    exact ⟨fun h => ⟨fun l hl => (h l hl).1, fun l hl => (h l hl).2⟩,
      fun h l hl => ⟨h.1 l hl, h.2 l hl⟩⟩
  rw [hsplit, checkSendable]
  cases hunwritable : v.unwritable? with
  | some f => simp
  | none => cases hsurrogate : (Json.write .compact v).hasSurrogate <;> simp

/-! ## 3. Plain data -/

/-- An entry more brings in its own leaves and no others. -/
theorem mem_entryLeaves_put {es : Entries} {k : Key} {v leaf : Value}
    (h : leaf ∈ entryLeaves (es.put k v)) :
    leaf ∈ entryLeaves es ∨ leaf ∈ entryLeaves [(k, v)] := by
  induction es with
  | nil => exact .inr h
  | cons e rest ih =>
    rw [Entries.put] at h
    split at h
    · simp only [entryLeaves, List.mem_cons, List.mem_append, List.not_mem_nil] at h ⊢
      tauto
    · simp only [entryLeaves, List.mem_cons, List.mem_append, List.not_mem_nil] at h ih ⊢
      tauto

/-- Writing entries one after the other brings in no leaves. -/
theorem mem_entryLeaves_of_ofList {es : List (Key × Value)} {leaf : Value}
    (h : leaf ∈ entryLeaves (Entries.ofList es)) : leaf ∈ entryLeaves es := by
  have hfold : ∀ (es : List (Key × Value)) (m : Entries),
      leaf ∈ entryLeaves (es.foldl (fun m e => Entries.put m e.1 e.2) m) →
        leaf ∈ entryLeaves m ∨ leaf ∈ entryLeaves es := by
    intro es
    induction es with
    | nil => exact fun m h => .inl h
    | cons e rest ih =>
      intro m h
      rcases ih _ h with hput | hrest
      · rcases mem_entryLeaves_put hput with hm | he
        · exact .inl hm
        · simp only [entryLeaves, List.append_nil, List.mem_cons, List.mem_append] at he ⊢
          tauto
      · simp only [entryLeaves, List.mem_cons, List.mem_append]
        tauto
  rcases hfold es [] h with hnone | hes
  · exact absurd hnone List.not_mem_nil
  · exact hes

/-- A leaf is finite, if it is a float. -/
def FiniteLeaf : Value → Prop
  | .float x => x.isFinite = true
  | _ => True

mutual

/-- **No float in plain data is NaN or infinite.** -/
theorem finite_of_mem_leaves_portable (v : Value) : ∀ leaf ∈ v.portable.leaves, leaf.FiniteLeaf := by
  cases v with
  | float x =>
    rw [portable]
    split
    next h => simpa [leaves, FiniteLeaf] using h
    next h => simp [leaves, FiniteLeaf]
  | list items => exact finite_of_mem_portableItems items
  | tuple items => exact finite_of_mem_portableItems items
  | mapping es =>
    exact fun leaf hleaf => finite_of_mem_portableEntries es leaf (mem_entryLeaves_of_ofList hleaf)
  | null | bool _ | int _ | text _ => simp [portable, leaves, FiniteLeaf]

theorem finite_of_mem_portableItems (items : List Value) :
    ∀ leaf ∈ itemLeaves (portableItems items), leaf.FiniteLeaf := by
  cases items with
  | nil => simp [portableItems, itemLeaves]
  | cons v rest =>
    rw [portableItems, itemLeaves, List.forall_mem_append]
    exact ⟨finite_of_mem_leaves_portable v, finite_of_mem_portableItems rest⟩

theorem finite_of_mem_portableEntries (es : List (Key × Value)) :
    ∀ leaf ∈ entryLeaves (portableEntries es), leaf.FiniteLeaf := by
  cases es with
  | nil => simp [portableEntries, entryLeaves]
  | cons e rest =>
    rw [portableEntries, entryLeaves, List.forall_mem_cons, List.forall_mem_append]
    exact ⟨trivial, finite_of_mem_leaves_portable e.2, finite_of_mem_portableEntries rest⟩

end

mutual

/-- The value with null in the place of every float that is no finite number. -/
def withNulls : Value → Value
  | .float x => if x.isFinite then .float x else .null
  | .list items => .list (itemsWithNulls items)
  | .tuple items => .tuple (itemsWithNulls items)
  | .mapping es => .mapping (entriesWithNulls es)
  | v => v

/-- The values with null in the place of such floats. -/
def itemsWithNulls : List Value → List Value
  | [] => []
  | v :: rest => v.withNulls :: itemsWithNulls rest

/-- The entries with null in the place of such floats. -/
def entriesWithNulls : List (Key × Value) → List (Key × Value)
  | [] => []
  | (k, v) :: rest => (k, v.withNulls) :: entriesWithNulls rest

end

mutual

/-- **Plain data does not tell NaN and the infinities from null.** -/
theorem portable_withNulls (v : Value) : v.withNulls.portable = v.portable := by
  cases v with
  | float x => cases hx : x.isFinite <;> simp [withNulls, portable, hx]
  | list items => rw [withNulls, portable, portable, portableItems_withNulls]
  | tuple items => rw [withNulls, portable, portable, portableItems_withNulls]
  | mapping es => rw [withNulls, portable, portable, portableEntries_withNulls]
  | null | bool _ | int _ | text _ => simp [withNulls]

theorem portableItems_withNulls (items : List Value) :
    portableItems (itemsWithNulls items) = portableItems items := by
  cases items with
  | nil => rfl
  | cons v rest =>
    rw [itemsWithNulls, portableItems, portableItems, portable_withNulls v,
      portableItems_withNulls rest]

theorem portableEntries_withNulls (es : List (Key × Value)) :
    portableEntries (entriesWithNulls es) = portableEntries es := by
  cases es with
  | nil => rfl
  | cons e rest =>
    rw [entriesWithNulls, portableEntries, portableEntries, portable_withNulls e.2,
      portableEntries_withNulls rest]

end

mutual

/-- What keeps a value from travelling is never a float. -/
theorem unportable?_withNulls (height : Nat) (v : Value) :
    v.withNulls.unportable? height = v.unportable? height := by
  cases height with
  | zero => rw [unportable?, unportable?]
  | succ height =>
    cases v with
    | float x => cases hx : x.isFinite <;> simp [withNulls, unportable?, hx]
    | list items => rw [withNulls, unportable?, unportable?, firstUnportable?_withNulls]
    | tuple items => rw [withNulls, unportable?, unportable?, firstUnportable?_withNulls]
    | mapping es => rw [withNulls, unportable?, unportable?, entryUnportable?_withNulls]
    | null | bool _ | int _ | text _ => simp [withNulls]

theorem firstUnportable?_withNulls (height : Nat) (items : List Value) :
    firstUnportable? height (itemsWithNulls items) = firstUnportable? height items := by
  cases items with
  | nil => rfl
  | cons v rest =>
    rw [itemsWithNulls, firstUnportable?, firstUnportable?, unportable?_withNulls height v,
      firstUnportable?_withNulls height rest]

theorem entryUnportable?_withNulls (height : Nat) (es : List (Key × Value)) :
    entryUnportable? height (entriesWithNulls es) = entryUnportable? height es := by
  cases es with
  | nil => rfl
  | cons e rest =>
    rw [entriesWithNulls, entryUnportable?, entryUnportable?, unportable?_withNulls height e.2,
      entryUnportable?_withNulls height rest]

end

end Value

end WorkflowGate
