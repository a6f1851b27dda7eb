/-
# What the checks say of expressions

An expression gets its value when the workflow runs, so nothing should be found at it before.  Fields,
credentials and conditions keep to that: what they find at a field they find at blank values, at values
without the declared shape, which expressions are spared, and at numbers, which no expression spells.
Two checks do not keep to it.

* A switch counts the cases of an expression as if it were the text of a list, and finds too few.
* A timeout that is refused is always reported at the first of the two keys that may declare it, though
  the second one declares it where the first one holds an expression.

The results:

* `Value.asNumber_of_isExpression`: an expression spells no number;
* `Node.not_isExpression_of_mem_findingsBy`: what is found at a field is found at no expression;
* `Snapshot.exists_on_cases_iff`, `Node.exists_on_timeout_iff`: when the two checks find something at one;
* `Snapshot.ofBatches_onExpression`: **what all of them find at expressions**;
* `Snapshot.Consistent.exists_on_computed_cases`, `Snapshot.reported_of_computed_cases`: a switch whose
  cases are an expression.
-/
import WorkflowGate.Proofs.Number.Marks
import WorkflowGate.Proofs.Reporter

namespace WorkflowGate

open Result Run

/-- The finding is at a field of a node. -/
structure Finding.IsAt (f : Finding) (node field : Text) : Prop where
  nodeId : f.nodeId = some node
  fieldId : f.fieldId = some field

/-! ## 1. Values -/

namespace Value

theorem not_isExpression_of_isBlank {v : Value} (h : v.isBlank = true) : v.isExpression = false :=
  Bool.eq_false_iff.mpr fun hexpression => by
    rw [not_isBlank_of_isExpression hexpression] at h
    cases h

/-- **An expression spells no number**: neither an equals sign nor a brace is a mark of one. -/
theorem asNumber_of_isExpression {v : Value} (h : v.isExpression = true) :
    v.asNumber = .ok none := by
  cases v with
  | text t =>
    rcases Bool.or_eq_true_iff.mp h with h | h
    · have hsign : CodePoint.ofChar '=' ∈ t.points :=
        (List.isPrefixOf_iff_prefix.mp h).subset (by decide)
      exact asNumber_of_mem hsign (by decide) (by decide) (by decide)
    · have hbrace : CodePoint.ofChar '\x7b' ∈ t.points :=
        ((Text.contains_iff _ _).mp h).subset (by decide)
      exact asNumber_of_mem hbrace (by decide) (by decide) (by decide)
  | _ => cases h

theorem not_isExpression_of_asNumber {v : Value} {x : Binary64} (h : v.asNumber = .ok (some x)) :
    v.isExpression = false :=
  Bool.eq_false_iff.mpr fun hexpression => by
    rw [asNumber_of_isExpression hexpression] at h
    cases h

theorem isExpression_of_startsWith {t : Text} (h : t.startsWith "=" = true) :
    (text t).isExpression = true := by
  simp [isExpression, h]

/-- No JSON text begins with an equals sign. -/
theorem exists_read_of_startsWith {t : Text} (h : t.startsWith "=" = true) :
    ∃ location, Json.read Room.field t = .error (.malformed .expectingValue location) := by
  obtain ⟨rest, hrest⟩ : ∃ rest, CodePoint.ofChar '=' :: rest = t.points :=
    List.isPrefixOf_iff_prefix.mp h
  have htokens : Json.tokens t = [⟨0, .broken (.error .expectingValue 0)⟩] := by
    rw [Json.tokens, ← hrest, Json.tokensFrom]
    rfl
  have hhead : ¬ t.points.head? = some (CodePoint.ofNat 0xFEFF) := by
    rw [← hrest, List.head?_cons, Option.some.injEq]
    decide
  refine ⟨Json.locate t 0, ?_⟩
  rw [Json.read, if_neg hhead, htokens]
  rfl

/-- A text that begins with an equals sign lists no cases. -/
theorem countCases_of_startsWith {t : Text} (h : t.startsWith "=" = true) :
    (text t).countCases = .ok 0 := by
  obtain ⟨location, hread⟩ := exists_read_of_startsWith h
  simp only [countCases, hread]

end Value

/-! ## 2. Fields and credentials -/

namespace Refinement

variable {n : Node} {f : Finding} {key : Text}

/-- Whoever requires a field reports it when it is blank. -/
theorem isBlank_of_mem_requireField {code : Code} {what rest : String} {field : Text}
    (hf : f ∈ requireField code what rest field n) (hkey : f.fieldId = some key) :
    (n.get key).isBlank = true := by
  obtain ⟨hblank, rfl⟩ := (Finding.mem_onlyIf _ _ _).mp hf
  rwa [← Option.some.inj hkey]

/-- **No built-in refinement finds anything at an expression.** -/
theorem not_isExpression_of_mem_said {kind : Text} {r : Refinement}
    (hr : r ∈ RefinementRegistry.builtin.forKind kind) {schema : Option KindSchema}
    (hf : f ∈ r.said n schema) (hkey : f.fieldId = some key) :
    (n.get key).isExpression = false := by
  rcases mem_said hf with rfl | ⟨found, hcheck, hf⟩
  · cases hkey
  rcases builtin_cases hr with ⟨-, rfl⟩ | rfl | ⟨name, code, what, rest, own, rfl⟩
  · simp only [languageModel] at hcheck
    cases hnumber : (n.get "temperature").asNumber with
    | error fault =>
      rw [hnumber] at hcheck
      cases hcheck
    | ok t =>
      rw [hnumber] at hcheck
      cases hcheck
      rcases List.mem_append.mp hf with hf | hf
      · exact Value.not_isExpression_of_isBlank (isBlank_of_mem_requireField hf hkey)
      · cases t with
        | none => cases hf
        | some x =>
          obtain ⟨-, rfl⟩ := (Finding.mem_onlyIf _ _ _).mp hf
          rw [← Option.some.inj hkey]
          exact Value.not_isExpression_of_asNumber hnumber
  · simp only [httpRequest] at hcheck
    split at hcheck
    · cases hcheck
      obtain ⟨hmissing, rfl⟩ := (Finding.mem_onlyIf _ _ _).mp hf
      rw [← Option.some.inj hkey]
      exact Value.not_isExpression_of_isBlank (Bool.and_eq_true_iff.mp hmissing).2
    · cases hcheck
      cases hf
  · cases hcheck
    exact Value.not_isExpression_of_isBlank (isBlank_of_mem_requireField hf hkey)

end Refinement

namespace Node

variable {n : Node} {f : Finding} {key : Text}

theorem not_isExpression_of_mem_missingField {owned : List Text} {spec : FieldSpec}
    (hf : f ∈ n.missingField owned spec) (hkey : f.fieldId = some key) :
    (n.get key).isExpression = false := by
  obtain ⟨hreport, rfl⟩ := (Finding.mem_onlyIf _ _ _).mp hf
  rw [← Option.some.inj hkey]
  have hmissing : (n.get spec.id).isMissing = true := (Bool.and_eq_true_iff.mp hreport).2
  exact Value.not_isExpression_of_isBlank (Value.isBlank_of_isMissing hmissing)

theorem not_isExpression_of_mem_shapeFinding {spec : FieldSpec} {said : List Finding}
    (h : n.shapeFinding spec = .ok said) (hf : f ∈ said) (hkey : f.fieldId = some key) :
    (n.get key).isExpression = false := by
  rw [← Option.some.inj ((mem_shapeFinding h hf).2.2.symm.trans hkey), Bool.eq_false_iff]
  intro hexpression
  rw [shapeFinding_of_expression hexpression] at h
  cases h
  cases hf

/-- **What is found at a field is found at no expression**, whatever the schema. -/
theorem not_isExpression_of_mem_findingsBy {schema : Option KindSchema} {rejected : Bool}
    {found : List Finding} (h : n.findingsBy .builtin schema rejected = .ok found) (hf : f ∈ found)
    (hkey : f.fieldId = some key) : (n.get key).isExpression = false := by
  rcases mem_findingsBy h hf with rfl | ⟨-, ⟨spec, hf⟩ | ⟨spec, said, hsaid, hf⟩⟩ | ⟨r, hr, hf⟩
  · cases hkey
  · exact not_isExpression_of_mem_missingField hf hkey
  · exact not_isExpression_of_mem_shapeFinding hsaid hf hkey
  · exact Refinement.not_isExpression_of_mem_said hr hf hkey

theorem not_isExpression_of_mem_missingCredentials {schema : KindSchema}
    (hf : f ∈ n.missingCredentials schema) (hkey : f.fieldId = some key) :
    (n.get key).isExpression = false := by
  obtain ⟨spec, -, -, hblank, rfl⟩ := mem_missingCredentials_iff.mp hf
  rw [← Option.some.inj hkey]
  exact Value.not_isExpression_of_isBlank hblank

end Node

/-! ## 3. Cases and timeouts -/

namespace Node

variable {n : Node} {found : List Finding} {key : Text}

/-- Fewer cases than a switch should have are counted in its field for them. -/
def HasFewCases (n : Node) : Prop := ∃ count < minSwitchCases, (n.get "cases").countCases = .ok count

/-- The second key for timeouts holds a number that the runtime refuses. -/
def OverrideRefused (n : Node) (limit : Value) : Prop :=
  ∃ x, (n.get "timeout_override").asNumber = .ok (some x) ∧
    (x.le .zero = true ∨ (Value.float x).exceeds limit = .ok true)

/-- A timeout is reported at the first key, and when the runtime refuses it. -/
theorem mem_timeoutError_iff {x : Binary64} {limit : Value}
    (h : n.timeoutError x limit = .ok found) :
    (∀ f ∈ found, f.IsAt n.id timeoutField) ∧
      (found ≠ [] ↔ x.le .zero = true ∨ (Value.float x).exceeds limit = .ok true) := by
  unfold timeoutError at h
  by_cases hpositive : x.le .zero = true
  · simp only [hpositive, if_true] at h
    cases h
    constructor
    · intro f hf
      rw [List.mem_singleton.mp hf]
      exact ⟨rfl, rfl⟩
    · simp [hpositive]
  · simp only [hpositive, Bool.false_eq_true, if_false] at h
    obtain ⟨exceeds, hexceeds, h⟩ := bind_eq_ok_iff.mp h
    cases exceeds with
    | true =>
      obtain ⟨shown, -, h⟩ := bind_eq_ok_iff.mp h
      cases h
      constructor
      · intro f hf
        rw [List.mem_singleton.mp hf]
        exact ⟨rfl, rfl⟩
      · simp [hexceeds]
    | false =>
      cases h
      constructor
      · intro f hf
        cases hf
      · simp [hpositive, hexceeds]

theorem nodeId_of_mem_timeoutFindings {limit : Value} (h : n.timeoutFindings limit = .ok found)
    {f : Finding} (hf : f ∈ found) : f.nodeId = some n.id := by
  obtain ⟨declared, -, h⟩ := bind_eq_ok_iff.mp h
  cases declared with
  | none =>
    cases h
    cases hf
  | some x => exact ((mem_timeoutError_iff h).1 f hf).nodeId

/-- Behind an expression the second key counts. -/
theorem declaredTimeout_of_isExpression (h : (n.get "timeout_seconds").isExpression = true) :
    n.declaredTimeout = (n.get "timeout_override").asNumber := by
  simp only [declaredTimeout, timeoutKeys, firstNumber, Value.asNumber_of_isExpression h]
  cases (n.get "timeout_override").asNumber with
  | error fault => rfl
  | ok x => cases x <;> rfl

/-- **When something is found of a timeout at an expression**: it stands under the first key, and the
second one declares a timeout that the runtime refuses. -/
theorem exists_on_timeout_iff {limit : Value} (h : n.timeoutFindings limit = .ok found)
    (hkey : (n.get key).isExpression = true) :
    (∃ f ∈ found, f.IsAt n.id key) ↔ key = timeoutField ∧ n.OverrideRefused limit := by
  obtain ⟨declared, hdeclared, h⟩ := bind_eq_ok_iff.mp h
  have hfound : (∀ f ∈ found, f.IsAt n.id timeoutField) ∧ (found ≠ [] ↔
      ∃ x, declared = some x ∧ (x.le .zero = true ∨ (Value.float x).exceeds limit = .ok true)) := by
    cases declared with
    | none =>
      cases h
      simp
    | some x => simpa using mem_timeoutError_iff h
  constructor
  · rintro ⟨f, hf, hat⟩
    obtain rfl : timeoutField = key :=
      Option.some.inj ((hfound.1 f hf).fieldId.symm.trans hat.fieldId)
    rw [declaredTimeout_of_isExpression hkey] at hdeclared
    obtain ⟨x, rfl, hrefused⟩ := hfound.2.mp (List.ne_nil_of_mem hf)
    exact ⟨rfl, x, hdeclared, hrefused⟩
  · rintro ⟨rfl, x, hx, hrefused⟩
    rw [declaredTimeout_of_isExpression hkey, hx] at hdeclared
    cases hdeclared
    obtain ⟨f, hf⟩ := List.exists_mem_of_ne_nil found (hfound.2.mpr ⟨x, rfl, hrefused⟩)
    exact ⟨f, hf, hfound.1 f hf⟩

end Node

namespace Snapshot

variable {s : Snapshot} {n : Node} {found : List Finding} {key : Text}

theorem nodeId_of_mem_branchFindingsOf (h : s.branchFindingsOf n = .ok found) {f : Finding}
    (hf : f ∈ found) : f.nodeId = some n.id := by
  have hwarning (condition : Bool) {code : Code} {message : Text} {field : Option Text}
      (hf : f ∈ Finding.onlyIf condition (.warning code message n.id field)) :
      f.nodeId = some n.id := by
    rw [((Finding.mem_onlyIf _ _ _).mp hf).2]
    rfl
  rw [branchFindingsOf] at h
  split at h
  · cases h
    rcases List.mem_append.mp hf with hf | hf
    · exact Refinement.nodeId_of_mem_requireField hf
    · unfold outcomeFindings at hf
      split at hf
      · exact hwarning true hf
      · exact hwarning _ hf
  · split at h
    · obtain ⟨count, -, h⟩ := bind_eq_ok_iff.mp h
      cases h
      rcases List.mem_append.mp hf with hf | hf
      · exact hwarning _ hf
      · exact hwarning _ hf
    · cases h
      cases hf

/-- **When something is found of branches at an expression**: it stands for the cases of a switch, and
too few are counted. -/
theorem exists_on_cases_iff (h : s.branchFindingsOf n = .ok found)
    (hkey : (n.get key).isExpression = true) :
    (∃ f ∈ found, f.IsAt n.id key) ↔
      n.kind = switchKind ∧ key = Text.ofString "cases" ∧ n.HasFewCases := by
  have hnone {code : Code} {message : Text} (condition : Bool) {f : Finding}
      (hf : f ∈ Finding.onlyIf condition (.warning code message n.id)) : ¬ f.IsAt n.id key := by
    intro hat
    rw [((Finding.mem_onlyIf _ _ _).mp hf).2] at hat
    cases hat.fieldId
  rw [branchFindingsOf] at h
  split at h
  next hif =>
    cases h
    constructor
    · rintro ⟨f, hf, hat⟩
      rcases List.mem_append.mp hf with hf | hf
      · have hblank := Refinement.isBlank_of_mem_requireField hf hat.fieldId
        rw [Value.not_isExpression_of_isBlank hblank] at hkey
        cases hkey
      · unfold outcomeFindings at hf
        split at hf
        · exact absurd hat (hnone true hf)
        · exact absurd hat (hnone _ hf)
    · rintro ⟨hswitch, -⟩
      exact absurd (hif.symm.trans hswitch) (by decide)
  next =>
    split at h
    next hswitch =>
      obtain ⟨count, hcount, h⟩ := bind_eq_ok_iff.mp h
      cases h
      constructor
      · rintro ⟨f, hf, hat⟩
        rcases List.mem_append.mp hf with hf | hf
        · obtain ⟨hfew, rfl⟩ := (Finding.mem_onlyIf _ _ _).mp hf
          exact ⟨hswitch, (Option.some.inj hat.fieldId).symm, count, of_decide_eq_true hfew, hcount⟩
        · exact absurd hat (hnone _ hf)
      · rintro ⟨-, rfl, count', hfew, hcount'⟩
        obtain rfl : count = count' := Except.ok.inj (hcount.symm.trans hcount')
        exact ⟨_, List.mem_append_left _ ((Finding.mem_onlyIf _ _ _).mpr ⟨decide_eq_true hfew, rfl⟩),
          rfl, rfl⟩
    next hother =>
      cases h
      simp [hother]

/-! ## 4. Whole canvases -/

/-- **What is found at an expression**: nothing by the checks of fields and credentials, whatever has
been resolved before, and by the other two exactly what they should not find. -/
structure OnExpression (s : Snapshot) (n : Node) (key : Text) (settings : Settings) : Prop where
  fields : ∀ (st st' : RunState) (found : List Finding),
    (s.fieldFindings .builtin).execute st = (.ok found, st') → ∀ f ∈ found, ¬ f.IsAt n.id key
  credentials : ∀ (st st' : RunState) (found : List Finding),
    s.credentialFindings.execute st = (.ok found, st') → ∀ f ∈ found, ¬ f.IsAt n.id key
  branches : ∀ found, s.branchFindings = .ok found →
    ((∃ f ∈ found, f.IsAt n.id key) ↔
      n.kind = switchKind ∧ key = Text.ofString "cases" ∧ n.HasFewCases)
  timeouts : ∀ found, s.timeoutFindings settings = .ok found →
    ((∃ f ∈ found, f.IsAt n.id key) ↔
      key = Node.timeoutField ∧ n.OverrideRefused settings.maxNodeTimeout)

/-- What goes through all nodes and finds what it finds on the node it looks at, finds on one of them
what it finds when it looks at it. -/
theorem Consistent.exists_on_iff (hs : s.Consistent) (hn : n ∈ s.nodeList)
    {check : Node → Except Fault (List Finding)} {q : Finding → Prop} {p : Prop}
    (hall : List.flatten <$> s.nodeList.mapM check = .ok found)
    (hnode : ∀ m part, check m = .ok part → ∀ f ∈ part, f.nodeId = some m.id)
    (hat : ∀ f, q f → f.nodeId = some n.id)
    (hone : ∀ part, check n = .ok part → ((∃ f ∈ part, q f) ↔ p)) :
    (∃ f ∈ found, q f) ↔ p := by
  obtain ⟨part, hpart⟩ : Succeeds (check n) := by
    obtain ⟨parts, hparts, -⟩ := map_eq_ok_iff.mp hall
    exact succeeds_mapM_iff.mp ⟨parts, hparts⟩ n hn
  rw [← hone part hpart]
  constructor
  · rintro ⟨f, hf, hq⟩
    obtain ⟨m, hm, other, hother, hf⟩ := (mem_flatten_mapM_iff hall).mp hf
    obtain rfl : m = n := hs.eq_of_id_eq hm hn
      (Option.some.inj ((hnode m other hother f hf).symm.trans (hat f hq)))
    rw [Except.ok.inj (hpart.symm.trans hother)]
    exact ⟨f, hf, hq⟩
  · rintro ⟨f, hf, hq⟩
    exact ⟨f, (mem_flatten_mapM_iff hall).mpr ⟨n, hn, part, hpart, hf⟩, hq⟩

theorem Consistent.onExpression (hs : s.Consistent) (hn : n ∈ s.nodeList)
    (hkey : (n.get key).isExpression = true) (settings : Settings) :
    s.OnExpression n key settings where
  fields := by
    intro st st' found hrun f hf hat
    obtain ⟨-, htold⟩ := (s.yields_fieldFindings .builtin : Yields st'.resolver _ _) _ _ _ hrun
    obtain ⟨m, hm, rejected, part, hpart, hf⟩ := (htold (.refl _)).only f hf
    obtain rfl : m = n := hs.eq_of_id_eq hm hn
      (Option.some.inj ((Node.nodeId_of_mem_findingsBy hpart hf).symm.trans hat.nodeId))
    rw [Node.not_isExpression_of_mem_findingsBy hpart hf hat.fieldId] at hkey
    cases hkey
  credentials := by
    intro st st' found hrun f hf hat
    obtain ⟨-, htold⟩ := (s.yields_credentialFindings : Yields st'.resolver _ _) _ _ _ hrun
    obtain ⟨m, hm, schema, -, hf⟩ := (htold (.refl _)).only f hf
    obtain rfl : m = n := hs.eq_of_id_eq hm hn
      (Option.some.inj ((Node.nodeId_of_mem_missingCredentials hf).symm.trans hat.nodeId))
    rw [Node.not_isExpression_of_mem_missingCredentials hf hat.fieldId] at hkey
    cases hkey
  branches found h :=
    hs.exists_on_iff hn h (fun _ _ hpart _ hf => nodeId_of_mem_branchFindingsOf hpart hf)
      (fun _ hat => hat.nodeId) fun _ hpart => exists_on_cases_iff hpart hkey
  timeouts found h :=
    hs.exists_on_iff hn h (fun _ _ hpart _ hf => Node.nodeId_of_mem_timeoutFindings hpart hf)
      (fun _ hat => hat.nodeId) fun _ hpart => Node.exists_on_timeout_iff hpart hkey

/-- **A switch is always reported when its cases are an expression that begins with an equals sign**,
unless the check stops. -/
theorem Consistent.exists_on_computed_cases (hs : s.Consistent) (hn : n ∈ s.nodeList)
    (hkind : n.kind = switchKind) {t : Text} (hcases : n.get "cases" = .text t)
    (ht : t.startsWith "=" = true) (h : s.branchFindings = .ok found) :
    ∃ f ∈ found, f.IsAt n.id "cases" := by
  have hkey : (n.get "cases").isExpression = true := by
    rw [hcases]
    exact Value.isExpression_of_startsWith ht
  refine ((hs.onExpression hn hkey {}).branches found h).mpr ⟨hkind, rfl, 0, by decide, ?_⟩
  rw [hcases]
  exact Value.countCases_of_startsWith ht

/-- **What all checks of values find at the expressions of a canvas.** -/
theorem ofBatches_onExpression {nodes : Batch Node} {edges : Batch Edge}
    (hs : ofBatches nodes edges = .ok s) (hn : n ∈ s.nodeList)
    (hkey : (n.get key).isExpression = true) (settings : Settings) :
    s.OnExpression n key settings :=
  (consistent_of_ofBatches hs).onExpression hn hkey settings

/-- A switch whose cases are an expression, as it is handed over. -/
def computedSwitch : Value :=
  .ofFields [("id", .text "s"), ("kind", .text "switch"),
    ("config", .ofFields [("cases", .text "=\x7b\x7b $json.cases \x7d\x7d")])]

/-- The node that it is read as. -/
def computedSwitchNode : Node :=
  ⟨"s", "switch", [("cases", .text "=\x7b\x7b $json.cases \x7d\x7d")], none, none⟩

/-- The canvas of that node alone. -/
def computedSwitchSnapshot : Snapshot := Snapshot.ofReadings [.node computedSwitchNode] []

/-- The canvas of the switch. -/
theorem ofBatches_onExpression_switch :
    ofBatches (.ofValue (.list [computedSwitch])) (.ofValue (.list [])) =
        .ok computedSwitchSnapshot ∧
      computedSwitchNode ∈ computedSwitchSnapshot.nodeList ∧
      (computedSwitchNode.get "cases").isExpression = true ∧
      computedSwitchSnapshot.OnExpression computedSwitchNode "cases" {} := by
  have hread : ofBatches (.ofValue (.list [computedSwitch])) (.ofValue (.list [])) =
      .ok computedSwitchSnapshot := rfl
  have hn : computedSwitchNode ∈ computedSwitchSnapshot.nodeList :=
    (List.mem_cons_self : _ ∈ [computedSwitchNode])
  have hcases : (computedSwitchNode.get "cases").isExpression = true := by decide +kernel
  exact ⟨hread, hn, hcases, ofBatches_onExpression hread hn hcases {}⟩

/-- **A switch has too few cases when they are an expression**, though nobody knows yet how many there
are. -/
theorem reported_of_computed_cases :
    ofBatches (.ofValue (.list [computedSwitch])) (.ofValue (.list [])) =
        .ok computedSwitchSnapshot ∧
      computedSwitchNode ∈ computedSwitchSnapshot.nodeList ∧
      (computedSwitchNode.get "cases").isExpression = true ∧
      ∃ found, computedSwitchSnapshot.branchFindings = .ok found ∧
        ∃ f ∈ found, f.IsAt computedSwitchNode.id "cases" := by
  have hn : computedSwitchNode ∈ computedSwitchSnapshot.nodeList :=
    (List.mem_cons_self : _ ∈ [computedSwitchNode])
  have hbegins : (Text.ofString "=\x7b\x7b $json.cases \x7d\x7d").startsWith "=" = true := by
    decide +kernel
  obtain ⟨found, hfound⟩ : Succeeds computedSwitchSnapshot.branchFindings := by
    refine (computedSwitchSnapshot.succeeds_branchFindings_iff).mpr fun n hn hkind => ?_
    obtain rfl := List.mem_singleton.mp (hn : n ∈ [computedSwitchNode])
    exact (Value.succeeds_countCases_iff _).mp ⟨0, Value.countCases_of_startsWith hbegins⟩
  have hs : computedSwitchSnapshot.Consistent := consistent_ofReadings _ _
  exact ⟨rfl, hn, Value.isExpression_of_startsWith hbegins, found, hfound,
    hs.exists_on_computed_cases hn rfl rfl hbegins hfound⟩

end Snapshot

end WorkflowGate
