/-
# Which canvases the checks can judge

A check stops where a value cannot be converted: an integer that no float comes near, a text that is
JSON but for an integer with too many digits, an estimate that is infinite.  For each check that can
stop there is the exact condition under which it does not.

* `succeeds_schemaFindings_iff`, `succeeds_countCases_iff`, `succeeds_declaredTimeout_iff`: the
  values that are converted, by kind of field and by name;
* `succeeds_adviseRuntime_iff`: the estimate must not be infinite.
-/
import WorkflowGate.Check.Branches
import WorkflowGate.Check.Complexity
import WorkflowGate.Proofs.Number.Rounding
import WorkflowGate.Proofs.Result

namespace WorkflowGate

open Result

/-! ## 1. Single values -/

namespace Value

/-- An integer, if the value is one, lies within the range of floats: it is nearer to the greatest of
them than to the next power of two. -/
def FitsFloat : Value → Prop
  | int i => i.natAbs + 2 ^ 970 < 2 ^ 1024
  | _ => True

/-- A text, if the value is one, is JSON or broken JSON: it does not fail by an integer with too many
digits, nor by nesting. -/
def ReadableJson : Value → Prop
  | text t => ∀ f, Json.read Room.field t = .error f → ∃ reason location, f = .malformed reason location
  | _ => True

theorem succeeds_asNumber_iff (v : Value) : Succeeds v.asNumber ↔ v.FitsFloat := by
  cases v with
  | int i =>
    rw [asNumber, FitsFloat, ← Binary64.ofInt?_ne_none_iff]
    cases Binary64.ofInt? i <;> simp
  | _ => exact ⟨fun _ => trivial, fun _ => ⟨_, rfl⟩⟩

theorem succeeds_toFloat_int_iff (i : Int) :
    Succeeds (int i).toFloat ↔ i.natAbs + 2 ^ 970 < 2 ^ 1024 := by
  rw [toFloat, ← Binary64.ofInt?_ne_none_iff]
  cases Binary64.ofInt? i <;> simp

/-- Only the faults other than broken syntax stop what goes on after reading JSON. -/
theorem readableJson_text_iff (t : Text) :
    (text t).ReadableJson ↔
      (∃ v, Json.read Room.field t = .ok v) ∨
        ∃ reason location, Json.read Room.field t = .error (.malformed reason location) := by
  rw [ReadableJson]
  cases Json.read Room.field t with
  | ok v => simp
  | error f => simp

theorem succeeds_countCases_iff (v : Value) : Succeeds v.countCases ↔ v.ReadableJson := by
  cases v with
  | text t =>
    rw [readableJson_text_iff, countCases]
    cases Json.read Room.field t with
    | ok v => simp
    | error f => cases f <;> simp
  | _ => exact ⟨fun _ => trivial, fun _ => ⟨_, rfl⟩⟩

theorem succeeds_isBrokenJson_iff (t : Text) :
    Succeeds (Node.isBrokenJson t) ↔ (text t).ReadableJson := by
  rw [readableJson_text_iff, Node.isBrokenJson]
  cases Json.read Room.field t with
  | ok v => simp
  | error f => cases f <;> simp

/-- Two numbers can be compared. -/
theorem succeeds_exceeds {v limit : Value} (hv : v.isNumeric = true) (hl : limit.isNumeric = true) :
    Succeeds (v.exceeds limit) := by
  unfold exceeds
  simp only [hv, hl, Bool.not_true, Bool.false_eq_true, if_false]
  cases v.place? with
  | none => exact succeeds_ok _
  | some a => cases limit.place? <;> exact succeeds_ok _

end Value

/-! ## 2. Fields -/

namespace Node

/-- The value of a field can be judged: where the field holds a number it is no integer out of range,
where it holds JSON it is no text that cannot be read. -/
def JudgeableAs (v : Value) : ValueKind → Prop
  | .json => v.ReadableJson
  | .number => v.FitsFloat
  | _ => True

/-- What is blank or an expression is not judged. -/
def JudgeableField (n : Node) (spec : FieldSpec) : Prop :=
  (n.get spec.id).isBlank = false → (n.get spec.id).isExpression = false →
    JudgeableAs (n.get spec.id) spec.valueKind

theorem succeeds_misshapen_iff (n : Node) (spec : FieldSpec) (v : Value) :
    Succeeds (n.misshapen spec v) ↔ JudgeableAs v spec.valueKind := by
  unfold misshapen JudgeableAs
  cases spec.valueKind with
  | json =>
    cases v with
    | text t =>
      rw [succeeds_bind_iff_left fun _ => succeeds_pure _]
      exact Value.succeeds_isBrokenJson_iff t
    | _ => exact iff_of_true (succeeds_ok _) trivial
  | number =>
    rw [← Value.succeeds_asNumber_iff]
    cases v <;> exact succeeds_bind_iff_left fun _ => succeeds_pure _
  | _ => cases v <;> exact iff_of_true (succeeds_ok _) trivial

theorem succeeds_shapeFinding_iff (n : Node) (spec : FieldSpec) :
    Succeeds (n.shapeFinding spec) ↔ n.JudgeableField spec := by
  rw [shapeFinding, JudgeableField]
  cases (n.get spec.id).isBlank with
  | true => simp
  | false =>
    cases (n.get spec.id).isExpression with
    | true => simp
    | false => simpa using succeeds_misshapen_iff n spec _

/-- **The fields of a node can be held against a schema exactly when every one of them can be
judged.** -/
theorem succeeds_schemaFindings_iff (n : Node) (owned : List Text) (schema : KindSchema) :
    Succeeds (n.schemaFindings owned schema) ↔ ∀ spec ∈ schema.fields, n.JudgeableField spec := by
  unfold schemaFindings
  rw [succeeds_bind_iff_left fun _ => succeeds_pure _, succeeds_mapM_iff]
  exact forall₂_congr fun spec _ => succeeds_shapeFinding_iff n spec

/-- The cases of the node can be counted, if it is one that branches in many. -/
def JudgeableCases (n : Node) : Prop := n.kind = switchKind → (n.get "cases").ReadableJson

/-! ## 3. Timeouts -/

/-- The values of the keys, up to the first number among them, are no integers out of range. -/
def NumbersFit (n : Node) : List Text → Prop
  | [] => True
  | key :: rest => (n.get key).FitsFloat ∧ ((n.get key).asNumber = .ok none → n.NumbersFit rest)

theorem succeeds_firstNumber_iff (n : Node) (keys : List Text) :
    Succeeds (n.firstNumber keys) ↔ n.NumbersFit keys := by
  induction keys with
  | nil => exact iff_of_true (succeeds_ok _) trivial
  | cons key rest ih =>
    rw [firstNumber, NumbersFit, ← Value.succeeds_asNumber_iff, ← ih]
    cases (n.get key).asNumber with
    | error f => exact iff_of_false (not_succeeds_error f) fun h => not_succeeds_error f h.1
    | ok number =>
      cases number with
      | none => exact ⟨fun h => ⟨succeeds_ok _, fun _ => h⟩, fun h => h.2 rfl⟩
      | some x => exact iff_of_true (succeeds_ok _) ⟨succeeds_ok _, fun h => by cases h⟩

/-- The timeout that the node declares can be found. -/
def JudgeableTimeout (n : Node) : Prop := n.NumbersFit timeoutKeys

theorem succeeds_declaredTimeout_iff (n : Node) :
    Succeeds n.declaredTimeout ↔ n.JudgeableTimeout := n.succeeds_firstNumber_iff timeoutKeys

/-- A timeout can be held against a limit that is a number. -/
theorem succeeds_timeoutError (n : Node) (timeout : Binary64) {limit : Value}
    (hnumeric : limit.isNumeric = true) (hfloat : Succeeds limit.toFloat) :
    Succeeds (n.timeoutError timeout limit) := by
  unfold timeoutError
  split
  · exact succeeds_pure _
  · obtain ⟨exceeds, hexceeds⟩ := Value.succeeds_exceeds (v := .float timeout) rfl hnumeric
    refine succeeds_bind_iff.mpr ⟨exceeds, hexceeds, ?_⟩
    cases exceeds with
    | true =>
      obtain ⟨shown, hshown⟩ := hfloat
      exact succeeds_bind_iff.mpr ⟨shown, hshown, succeeds_pure _⟩
    | false => exact succeeds_pure _

theorem succeeds_timeoutFindings_iff (n : Node) {limit : Value} (hnumeric : limit.isNumeric = true)
    (hfloat : Succeeds limit.toFloat) :
    Succeeds (n.timeoutFindings limit) ↔ n.JudgeableTimeout := by
  rw [← succeeds_declaredTimeout_iff, timeoutFindings, succeeds_bind_iff_left]
  intro declared
  cases declared with
  | some timeout => exact n.succeeds_timeoutError timeout hnumeric hfloat
  | none => exact succeeds_pure _

theorem succeeds_estimatedSeconds_iff (n : Node) {default : Value}
    (hfloat : Succeeds default.toFloat) :
    Succeeds (n.estimatedSeconds default) ↔ n.JudgeableTimeout := by
  rw [← succeeds_declaredTimeout_iff, estimatedSeconds, succeeds_bind_iff_left]
  intro declared
  cases declared with
  | some timeout =>
    show Succeeds (if Binary64.zero.lt timeout then pure timeout else default.toFloat)
    split
    · exact succeeds_pure _
    · exact hfloat
  | none => exact hfloat

end Node

namespace Snapshot

/-! ## 4. All nodes -/

theorem succeeds_timeoutFindings_iff (s : Snapshot) {settings : Settings}
    (hnumeric : settings.maxNodeTimeout.isNumeric = true)
    (hfloat : Succeeds settings.maxNodeTimeout.toFloat) :
    Succeeds (s.timeoutFindings settings) ↔ ∀ n ∈ s.nodeList, n.JudgeableTimeout := by
  rw [timeoutFindings, succeeds_map_iff, succeeds_mapM_iff]
  exact forall₂_congr fun n _ => n.succeeds_timeoutFindings_iff hnumeric hfloat

theorem succeeds_estimateRuntime_iff (s : Snapshot) {settings : Settings}
    (hfloat : Succeeds settings.defaultNodeTimeout.toFloat) :
    Succeeds (s.estimateRuntime settings) ↔ ∀ n ∈ s.nodeList, n.JudgeableTimeout := by
  rw [estimateRuntime, succeeds_foldlM_iff]
  exact forall₂_congr fun n _ => n.succeeds_estimatedSeconds_iff hfloat

/-- An estimate is a sum, so it is within range if it is finite. -/
theorem bounded_estimateRuntime {s : Snapshot} {settings : Settings} {total : Binary64}
    (h : s.estimateRuntime settings = .ok total) : total.Bounded :=
  foldlM_ok Binary64.bounded_add Binary64.bounded_zero h

/-- **The run time can be advised on unless the estimate is infinite.**  Infinity is beyond every
limit, and has no nearest whole number. -/
theorem succeeds_adviseRuntime_iff (s : Snapshot) {settings : Settings} {limit : Int}
    (hfloat : Succeeds settings.defaultNodeTimeout.toFloat)
    (hlimit : settings.maxTotalTimeout = .int limit) :
    Succeeds (s.adviseRuntime settings) ↔
      (∀ n ∈ s.nodeList, n.JudgeableTimeout) ∧
        s.estimateRuntime settings ≠ .ok (.infinite false) := by
  rw [← s.succeeds_estimateRuntime_iff hfloat, adviseRuntime, hlimit]
  cases htotal : s.estimateRuntime settings with
  | error f => exact iff_of_false (not_succeeds_error f) fun h => not_succeeds_error f h.1
  | ok total =>
    cases total with
    | nan => exact iff_of_true (succeeds_ok _) ⟨succeeds_ok _, fun h => by cases h⟩
    | infinite negative =>
      cases negative with
      | true => exact iff_of_true (succeeds_ok _) ⟨succeeds_ok _, fun h => by cases h⟩
      | false => exact iff_of_false (not_succeeds_error _) fun h => h.2 rfl
    | finite negative units =>
      obtain ⟨minutes, hminutes⟩ :=
        Binary64.round?_divNat_isSome (n := 60) (by decide) (bounded_estimateRuntime htotal)
      refine iff_of_true ?_ ⟨succeeds_ok _, fun h => by cases h⟩
      obtain ⟨exceeds, hexceeds⟩ : Succeeds
          ((Value.float (.finite negative units)).exceeds (.int limit)) :=
        Value.succeeds_exceeds rfl rfl
      refine succeeds_bind_iff.mpr ⟨_, rfl, succeeds_bind_iff.mpr ⟨exceeds, hexceeds, ?_⟩⟩
      cases exceeds with
      | true =>
        rw [hminutes]
        exact succeeds_ok _
      | false => exact succeeds_pure _

/-- Counts can be held against a threshold that is a number. -/
theorem succeeds_adviseCount (count : Nat) {threshold : Value} (h : threshold.isNumeric = true)
    (code : Code) (message : Text) : Succeeds (adviseCount count threshold code message) := by
  rw [adviseCount, succeeds_bind_iff_left fun _ => succeeds_pure _]
  exact Value.succeeds_exceeds rfl h

theorem succeeds_advice_iff (s : Snapshot) (categories : List KindCategory) {settings : Settings}
    {depth : Value} (hllm : settings.maxLlmNodes.isNumeric = true)
    (hdepth : depth.isNumeric = true) :
    Succeeds (s.advice categories settings depth) ↔ Succeeds (s.adviseRuntime settings) := by
  refine succeeds_bind_iff_right (succeeds_adviseCount _ hllm _ _) fun _ => ?_
  refine succeeds_bind_iff_right (succeeds_adviseCount _ hdepth _ _) fun _ => ?_
  exact succeeds_bind_iff_left fun _ => succeeds_pure _

theorem succeeds_branchFindings_iff (s : Snapshot) :
    Succeeds s.branchFindings ↔ ∀ n ∈ s.nodeList, n.JudgeableCases := by
  rw [branchFindings, succeeds_map_iff, succeeds_mapM_iff]
  refine forall₂_congr fun n _ => ?_
  unfold branchFindingsOf Node.JudgeableCases
  by_cases hif : n.kind = ifKind
  · rw [if_pos hif, hif]
    exact iff_of_true (succeeds_ok _) fun h => absurd h (by decide)
  · rw [if_neg hif]
    by_cases hswitch : n.kind = switchKind
    · rw [if_pos hswitch, switchFindings, succeeds_bind_iff_left fun _ => succeeds_pure _,
        Value.succeeds_countCases_iff]
      exact ⟨fun h _ => h, fun h => h hswitch⟩
    · rw [if_neg hswitch]
      exact iff_of_true (succeeds_ok _) fun h => absurd h hswitch

end Snapshot

end WorkflowGate
