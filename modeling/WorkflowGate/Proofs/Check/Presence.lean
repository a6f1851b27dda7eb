/-
# What passes for a value

Two checks look at the value of a required field.  The check of presence asks whether anything is there,
and the check of shapes whether an address is an address and a number a number.  A value of which neither
has anything to say should be an expression or have its shape.

The two do not ask the same question, though.  White space is something to the first check, for which
only null and the empty text are nothing, and it is nothing to the second, which passes over whatever is
blank.  So a text of white space alone falls between the two, and that is all that does.

* `Node.missingField_eq_nil_iff`, `Node.shapeFinding_eq_nil_iff`: when each of the checks has nothing to
  say;
* `Node.unsaid_iff`: when neither has;
* `Snapshot.value_of_unlocated`: **what a required field holds where nothing is located at it**, and
  `Snapshot.whitespace_unlocated` for the gap.
-/
import WorkflowGate.Proofs.Check.Missing
import WorkflowGate.Proofs.Checks

namespace WorkflowGate

open Result Run

/-! ## 1. Values -/

/-- Text that is not empty and holds white space alone. -/
def Value.IsWhitespace (v : Value) : Prop := ∃ t, v = .text t ∧ t ≠ Text.empty ∧ t.isBlank = true

/-- What is blank is missing or white space. -/
theorem Value.isWhitespace_iff (v : Value) :
    v.IsWhitespace ↔ v.isMissing = false ∧ v.isBlank = true := by
  cases v with
  | text t =>
    have hempty : t.isEmpty = false ↔ t ≠ Text.empty := by
      rw [← Bool.not_eq_true, Text.isEmpty_iff]
    simp [IsWhitespace, isMissing, isBlank, hempty]
  | _ => simp [IsWhitespace, isMissing, isBlank]

instance (v : Value) : Decidable v.IsWhitespace := decidable_of_iff _ v.isWhitespace_iff.symm

/-- An address is there. -/
theorem Value.isMissing_of_isUrl {v : Value} (h : v.isUrl = true) : v.isMissing = false := by
  cases v with
  | text t =>
    rw [← Bool.not_eq_true]
    intro hmissing
    obtain rfl := (Text.isEmpty_iff t).mp hmissing
    exact absurd h (by decide +kernel)
  | _ => first | rfl | cases h

/-- A number is there. -/
theorem Value.isMissing_of_asNumber {v : Value} {x : Binary64} (h : v.asNumber = .ok (some x)) :
    v.isMissing = false := by
  cases v with
  | text t =>
    rw [← Bool.not_eq_true]
    intro hmissing
    obtain rfl := (Text.isEmpty_iff t).mp hmissing
    have hnone : (Value.text Text.empty).asNumber = .ok none := rfl
    rw [hnone] at h
    cases h
  | _ => first | rfl | cases h

namespace Node

variable {n : Node} {spec : FieldSpec} {owned : List Text}

/-- The value of the field is an absolute address or a number, as the field declares. -/
inductive HasShape (n : Node) (spec : FieldSpec) : Prop
  | address (hkind : spec.valueKind = .url) (h : (n.get spec.id).isUrl = true)
  | number {x : Binary64} (hkind : spec.valueKind = .number)
    (h : (n.get spec.id).asNumber = .ok (some x))

/-- What has a shape is there. -/
theorem HasShape.isMissing_eq (h : n.HasShape spec) : (n.get spec.id).isMissing = false := by
  rcases h with ⟨-, h⟩ | ⟨-, h⟩
  · exact Value.isMissing_of_isUrl h
  · exact Value.isMissing_of_asNumber h

/-! ## 2. The two checks -/

/-- **The check of presence has nothing to say exactly when something is there.** -/
theorem missingField_eq_nil_iff (hholds : spec.holdsCredential = false) (howned : spec.id ∉ owned) :
    n.missingField owned spec = [] ↔ (n.get spec.id).isMissing = false := by
  unfold missingField Finding.onlyIf
  cases (n.get spec.id).isMissing <;> simp [hholds, howned]

/-- Of an address or a number nothing is said exactly when it is one. -/
theorem misshapen_eq_nil_iff (hkind : spec.valueKind = .url ∨ spec.valueKind = .number) :
    n.misshapen spec (n.get spec.id) = .ok [] ↔ n.HasShape spec := by
  rcases hkind with hkind | hkind
  · have hsaid : n.misshapen spec (n.get spec.id) = .ok [] ↔ (n.get spec.id).isUrl = true := by
      cases hurl : (n.get spec.id).isUrl <;> simp [misshapen, hkind, Finding.onlyIf, hurl]
    rw [hsaid]
    constructor
    · exact .address hkind
    · rintro (⟨-, h⟩ | ⟨hnumber, -⟩)
      · exact h
      · cases hkind.symm.trans hnumber
  · have hsaid : n.misshapen spec (n.get spec.id) = .ok [] ↔
        ∃ x, (n.get spec.id).asNumber = .ok (some x) := by
      rcases hnumber : (n.get spec.id).asNumber with fault | _ | x <;>
        simp [misshapen, hkind, Finding.onlyIf, hnumber, bind, Except.bind, pure, Except.pure]
    rw [hsaid]
    constructor
    · rintro ⟨x, hx⟩
      exact .number hkind hx
    · rintro (⟨hurl, -⟩ | ⟨-, h⟩)
      · cases hkind.symm.trans hurl
      · exact ⟨_, h⟩

/-- **The check of shapes has nothing to say exactly of what is blank, an expression, or in shape.** -/
theorem shapeFinding_eq_nil_iff (hkind : spec.valueKind = .url ∨ spec.valueKind = .number) :
    n.shapeFinding spec = .ok [] ↔ (n.get spec.id).isBlank = true ∨
      (n.get spec.id).isExpression = true ∨ n.HasShape spec := by
  rw [← misshapen_eq_nil_iff hkind]
  unfold shapeFinding
  cases hblank : (n.get spec.id).isBlank <;>
    cases hexpression : (n.get spec.id).isExpression <;> simp [hblank, hexpression]

/-- **Neither check has anything to say exactly of expressions, of what is in shape, and of white
space.** -/
theorem unsaid_iff (hkind : spec.valueKind = .url ∨ spec.valueKind = .number)
    (hholds : spec.holdsCredential = false) (howned : spec.id ∉ owned) :
    n.missingField owned spec = [] ∧ n.shapeFinding spec = .ok [] ↔
      (n.get spec.id).isExpression = true ∨ n.HasShape spec ∨ (n.get spec.id).IsWhitespace := by
  rw [missingField_eq_nil_iff hholds howned, shapeFinding_eq_nil_iff hkind, Value.isWhitespace_iff]
  constructor
  · rintro ⟨hthere, hblank | hexpression | hshape⟩
    · exact .inr (.inr ⟨hthere, hblank⟩)
    · exact .inl hexpression
    · exact .inr (.inl hshape)
  · rintro (hexpression | hshape | ⟨hthere, hblank⟩)
    · have hblank := Value.not_isBlank_of_isExpression hexpression
      refine ⟨?_, .inr (.inl hexpression)⟩
      rw [← Bool.not_eq_true]
      intro hmissing
      rw [Value.isBlank_of_isMissing hmissing] at hblank
      cases hblank
    · exact ⟨hshape.isMissing_eq, .inr (.inr hshape)⟩
    · exact ⟨hthere, .inl hblank⟩

/-- What the check of shapes says of a field is among what a schema has to say of a node. -/
theorem exists_said_of_findingsBy {refinements : RefinementRegistry} {schema : KindSchema}
    {rejected : Bool} {found : List Finding}
    (h : n.findingsBy refinements (some schema) rejected = .ok found) (hspec : spec ∈ schema.fields) :
    ∃ said, n.shapeFinding spec = .ok said ∧ ∀ f ∈ said, f ∈ found := by
  obtain ⟨general, hgeneral, rfl⟩ := exists_general_of_findingsBy h
  obtain ⟨shapes, hshapes, hgeneral⟩ := bind_eq_ok_iff.mp hgeneral
  cases hgeneral
  obtain ⟨said, hsaid⟩ := succeeds_mapM_iff.mp ⟨shapes, hshapes⟩ spec hspec
  have hall : List.flatten <$> schema.fields.mapM n.shapeFinding = .ok shapes.flatten := by
    rw [hshapes]
    rfl
  refine ⟨said, hsaid, fun f hf => ?_⟩
  refine List.mem_append_left _ (List.mem_append_right _ (List.mem_append_right _ ?_))
  exact (mem_flatten_mapM_iff hall).mpr ⟨spec, hspec, said, hsaid, hf⟩

/-- What both checks say of a required field is among what a schema has to say of a node. -/
theorem unsaid_of_findingsBy {refinements : RefinementRegistry} {schema : KindSchema}
    {rejected : Bool} {found : List Finding}
    (h : n.findingsBy refinements (some schema) rejected = .ok found)
    (hspec : spec ∈ schema.requiredFields)
    (hnone : ∀ f ∈ found, ¬ (f.nodeId = some n.id ∧ f.fieldId = some spec.id)) :
    n.missingField (refinements.ownedFields n.kind) spec = [] ∧ n.shapeFinding spec = .ok [] := by
  constructor
  · obtain ⟨general, hgeneral, rfl⟩ := exists_general_of_findingsBy h
    obtain ⟨shapes, -, hgeneral⟩ := bind_eq_ok_iff.mp hgeneral
    cases hgeneral
    simp only [List.mem_append] at hnone
    refine List.eq_nil_iff_forall_not_mem.mpr fun f hf => ?_
    refine hnone f (.inl (.inr (.inl (List.mem_flatMap.mpr ⟨spec, hspec, hf⟩)))) ?_
    exact (mem_missingField hf).2
  · obtain ⟨said, hsaid, hfound⟩ := exists_said_of_findingsBy h (List.mem_filter.mp hspec).1
    have hnil : said = [] := List.eq_nil_iff_forall_not_mem.mpr fun f hf =>
      hnone f (hfound f hf) (mem_shapeFinding hsaid hf).2
    rw [hsaid, hnil]

end Node

/-! ## 3. Whole runs -/

namespace Snapshot

/-- **Where nothing is located at a required address or number, it is an expression, or it is one, or
it is white space**; whatever the registry, the lookup and the refinements are, if the field holds no
credential and no refinement owns it.  And of these neither check has anything to say. -/
theorem value_of_unlocated {s : Snapshot} {refinements : RefinementRegistry} {st st' : RunState}
    {all : List Finding} (hrun : (s.fieldFindings refinements).execute st = (.ok all, st')) {n : Node}
    (hn : n ∈ s.nodeList) {schema : KindSchema} (hschema : st'.resolver.answer n.kind = some schema)
    {spec : FieldSpec} (hspec : spec ∈ schema.requiredFields)
    (hkind : spec.valueKind = .url ∨ spec.valueKind = .number)
    (hholds : spec.holdsCredential = false) (howned : spec.id ∉ refinements.ownedFields n.kind) :
    ((∀ f ∈ all, ¬ (f.nodeId = some n.id ∧ f.fieldId = some spec.id)) →
      (n.get spec.id).isExpression = true ∨ n.HasShape spec ∨ (n.get spec.id).IsWhitespace) ∧
    ((n.get spec.id).isExpression = true ∨ n.HasShape spec ∨ (n.get spec.id).IsWhitespace →
      n.missingField (refinements.ownedFields n.kind) spec = [] ∧ n.shapeFinding spec = .ok []) := by
  refine ⟨fun hnone => ?_, (Node.unsaid_iff hkind hholds howned).mpr⟩
  have hnamed : n.kind.isEmpty = false := by
    rw [← Bool.not_eq_true]
    intro hempty
    simp [Resolver.answer, hempty] at hschema
  have hfields : s.FieldsFound st'.resolver refinements all :=
    (s.yields_fieldFindings refinements st all st' hrun).2 (.refl _)
  obtain ⟨-, rejected, found, hfound, hmem⟩ := hfields.every n hn hnamed
  rw [hschema] at hfound
  exact (Node.unsaid_iff hkind hholds howned).mp
    (Node.unsaid_of_findingsBy hfound hspec fun f hf => hnone f (hmem f hf))

/-- A wait whose length is worked out in a run, and a request to white space. -/
def spacedSnapshot : Snapshot :=
  ofReadings [.node ⟨"wait", "delay", [("seconds", .text "=$json.pause")], none, none⟩,
    .node ⟨"ask", "http_request", [("url", .text " ")], none, none⟩] []

/-- The two required fields that hold these values. -/
def secondsField : FieldSpec := Palette.requiredField "seconds" "Seconds" .number

@[inherit_doc secondsField]
def urlField : FieldSpec := Palette.requiredField "url" "URL" .url

/-- Nothing is located at the length of the wait, so it is an expression, a number or white space. -/
theorem value_of_unlocated_seconds : ∃ n ∈ spacedSnapshot.nodeList, ∃ st,
    (spacedSnapshot.fieldFindings .builtin).execute (Run.begin .builtin none) = (.ok [], st) ∧
      ∃ schema, st.resolver.answer n.kind = some schema ∧ secondsField ∈ schema.requiredFields ∧
        secondsField.id ∉ RefinementRegistry.builtin.ownedFields n.kind ∧
        ((n.get secondsField.id).isExpression = true ∨ n.HasShape secondsField ∨
          (n.get secondsField.id).IsWhitespace) := by
  rcases hrun : (spacedSnapshot.fieldFindings .builtin).execute (Run.begin .builtin none) with ⟨x, st⟩
  obtain rfl : x = .ok [] := by
    have hx : ((spacedSnapshot.fieldFindings .builtin).execute (Run.begin .builtin none)).1 =
      .ok [] := rfl
    rw [hrun] at hx
    exact hx
  have hschema : st.resolver.answer "delay" =
      some (Palette.node "delay" "Wait" .transform [secondsField]) := by
    have hanswer : ((spacedSnapshot.fieldFindings .builtin).execute
        (Run.begin .builtin none)).2.resolver.answer "delay" =
      some (Palette.node "delay" "Wait" .transform [secondsField]) := rfl
    rw [hrun] at hanswer
    exact hanswer
  have hn : (⟨"wait", "delay", [("seconds", .text "=$json.pause")], none, none⟩ : Node) ∈
      spacedSnapshot.nodeList := List.mem_cons_self
  have hspec : secondsField ∈
      (Palette.node "delay" "Wait" .transform [secondsField]).requiredFields := List.mem_cons_self
  have howned : secondsField.id ∉ RefinementRegistry.builtin.ownedFields "delay" := by
    decide +kernel
  exact ⟨_, hn, st, rfl, _, hschema, hspec, howned,
    (value_of_unlocated hrun hn hschema hspec (.inr rfl) (by decide +kernel) howned).1
      (List.forall_mem_nil _)⟩

/-- **White space falls between the two checks**: nothing is said of the request, whose address is
required and is neither an expression nor an address. -/
theorem whitespace_unlocated : ∃ n ∈ spacedSnapshot.nodeList,
    ((spacedSnapshot.fieldFindings .builtin).execute (Run.begin .builtin none)).1 = .ok [] ∧
      (∃ schema, Registry.builtin.find? n.kind = some schema ∧ urlField ∈ schema.requiredFields) ∧
      urlField.holdsCredential = false ∧
      urlField.id ∉ RefinementRegistry.builtin.ownedFields n.kind ∧
      (n.get urlField.id).isExpression = false ∧ (n.get urlField.id).isUrl = false := by
  refine ⟨⟨"ask", "http_request", [("url", .text " ")], none, none⟩,
    List.mem_cons_of_mem _ List.mem_cons_self, rfl, ⟨_, rfl, ?_⟩, ?_, ?_, ?_, ?_⟩
  · exact List.mem_cons_self
  all_goals decide +kernel

end Snapshot

end WorkflowGate
