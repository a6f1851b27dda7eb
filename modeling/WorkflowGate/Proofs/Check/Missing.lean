/-
# Who reports a missing value

Three checks share the duty to report a required field that holds nothing.  The general check leaves
out fields for credentials, which the check of credentials reports, and fields that a refinement owns,
which the refinement reports.  Nobody checks that the owner has spoken: the refinement of language
models fails on a temperature beyond the range of floats, and takes with it what it had to say of the
prompt.

* `Refinement.blames_owned`: the owner of a blank field reports it, but for that one case;
* `Node.blames_of_missing`: **a missing required value is reported by one of the three**, but for it;
* `Node.PromptUnjudged.not_blames`: in that case none of the three reports the prompt.
-/
import WorkflowGate.Proofs.Gate

namespace WorkflowGate

open Result

/-- The finding is an error on a field of a node. -/
structure Finding.Blames (f : Finding) (node field : Text) : Prop where
  severity : f.severity = .error
  nodeId : f.nodeId = some node
  fieldId : f.fieldId = some field

/-! ## 1. Owners -/

namespace Refinement

/-- A blank field that a check requires is reported. -/
theorem blames_requireField (code : Code) (what rest : String) {field : Text} {n : Node}
    (h : (n.get field).isBlank = true) :
    ∃ f ∈ requireField code what rest field n, f.Blames n.id field := by
  rw [requireField, h]
  exact ⟨_, List.mem_singleton_self _, rfl, rfl, rfl⟩

end Refinement

/-- **Nobody reports the missing prompt of a node**: its kind is that of a language model, its
temperature is beyond the range of floats, and no field of its schema asks for a credential there. -/
structure Node.PromptUnjudged (n : Node) (schema : KindSchema) : Prop where
  kind : n.kind ∈ Palette.llmKinds
  temperature : ¬ (n.get "temperature").FitsFloat
  credentials : ∀ spec ∈ schema.fields, spec.id = "prompt" → spec.holdsCredential = false

namespace Refinement

/-- The refinement of language models fails on a temperature beyond the range of floats. -/
theorem check_languageModel_of_not_fits {n : Node} (h : ¬ (n.get "temperature").FitsFloat)
    (schema : Option KindSchema) : languageModel.check n schema = .error rangeReason := by
  rw [← Value.succeeds_asNumber_iff] at h
  cases hnumber : (n.get "temperature").asNumber with
  | error fault => simp only [languageModel, hnumber]
  | ok t =>
    rw [hnumber] at h
    exact absurd (succeeds_ok t) h

/-- **The owner of a blank field reports it**, unless it is a prompt beside a temperature beyond the
range of floats. -/
theorem blames_owned {n : Node} {r : Refinement}
    (hr : r ∈ RefinementRegistry.builtin.forKind n.kind) {field : Text} (howned : field ∈ r.owns)
    (hblank : (n.get field).isBlank = true) (schema : Option KindSchema) :
    (∃ f ∈ r.said n schema, f.Blames n.id field) ∨
      n.kind ∈ Palette.llmKinds ∧ field = "prompt" ∧ ¬ (n.get "temperature").FitsFloat := by
  rcases builtin_cases hr with ⟨hkind, rfl⟩ | rfl | ⟨name, code, what, rest, own, rfl⟩
  · obtain rfl := List.mem_singleton.mp howned
    cases hnumber : (n.get "temperature").asNumber with
    | error fault =>
      refine .inr ⟨hkind, rfl, fun hfits => ?_⟩
      obtain ⟨t, ht⟩ := (Value.succeeds_asNumber_iff _).mpr hfits
      rw [hnumber] at ht
      cases ht
    | ok t =>
      obtain ⟨f, hf, hblames⟩ := blames_requireField .missingPrompt "LLM node" "requires a prompt" hblank
      refine .inl ⟨f, ?_, hblames⟩
      simp only [said, languageModel, hnumber]
      exact List.mem_append_left _ hf
  · cases howned
  · obtain rfl := List.mem_singleton.mp howned
    exact .inl (blames_requireField code what rest hblank)

theorem nodeId_of_mem_requireField {code : Code} {what rest : String} {field : Text} {n : Node}
    {f : Finding} (h : f ∈ requireField code what rest field n) : f.nodeId = some n.id := by
  rw [((Finding.mem_onlyIf _ _ _).mp h).2]
  rfl

/-- **Whatever a built-in refinement finds, it finds on its node.** -/
theorem nodeId_of_mem_said {n : Node} {r : Refinement}
    (hr : r ∈ RefinementRegistry.builtin.forKind n.kind) {schema : Option KindSchema} {f : Finding}
    (hf : f ∈ r.said n schema) : f.nodeId = some n.id := by
  rcases mem_said hf with rfl | ⟨found, hcheck, hf⟩
  · rfl
  rcases builtin_cases hr with ⟨-, rfl⟩ | rfl | ⟨name, code, what, rest, own, rfl⟩
  · simp only [languageModel] at hcheck
    cases hnumber : (n.get "temperature").asNumber with
    | error fault =>
      rw [hnumber] at hcheck
      cases hcheck
    | ok t =>
      rw [hnumber] at hcheck
      cases hcheck
      rcases List.mem_append.mp hf with hf | hf
      · exact nodeId_of_mem_requireField hf
      · cases t with
        | none => cases hf
        | some x =>
          rw [((Finding.mem_onlyIf _ _ _).mp hf).2]
          rfl
  · simp only [httpRequest] at hcheck
    split at hcheck
    · cases hcheck
      rw [((Finding.mem_onlyIf _ _ _).mp hf).2]
      rfl
    · cases hcheck
      cases hf
  · cases hcheck
    exact nodeId_of_mem_requireField hf

end Refinement

/-! ## 2. One node -/

namespace Node

variable {n : Node} {spec : FieldSpec} {f : Finding}

/-- A missing value that the general check reports is not left to an owner. -/
theorem mem_missingField {owned : List Text} (h : f ∈ n.missingField owned spec) :
    spec.id ∉ owned ∧ f.nodeId = some n.id ∧ f.fieldId = some spec.id := by
  obtain ⟨hreport, rfl⟩ := (Finding.mem_onlyIf _ _ _).mp h
  simp only [Bool.and_eq_true, Bool.not_eq_true', List.contains_eq_mem, decide_eq_false_iff_not]
    at hreport
  exact ⟨hreport.1.1, rfl, rfl⟩

/-- The general check reports a missing value that is left to nobody. -/
theorem blames_missingField (n : Node) {owned : List Text} (howned : spec.id ∉ owned)
    (hholds : spec.holdsCredential = false) (hmissing : (n.get spec.id).isMissing = true) :
    ∃ f ∈ n.missingField owned spec, f.Blames n.id spec.id := by
  have hreport : (!owned.contains spec.id && !spec.holdsCredential && (n.get spec.id).isMissing) =
      true := by simp [howned, hholds, hmissing]
  exact ⟨_, (Finding.mem_onlyIf _ _ _).mpr ⟨hreport, rfl⟩, rfl, rfl, rfl⟩

/-- A value that is found to be misshapen is there. -/
theorem mem_shapeFinding {said : List Finding} (h : n.shapeFinding spec = .ok said) (hf : f ∈ said) :
    (n.get spec.id).isBlank = false ∧ f.nodeId = some n.id ∧ f.fieldId = some spec.id := by
  rw [shapeFinding] at h
  split at h
  · cases h
    cases hf
  rename_i hjudged
  have hblank : (n.get spec.id).isBlank = false := by
    simp only [Bool.or_eq_true, not_or, Bool.not_eq_true] at hjudged
    exact hjudged.1
  refine ⟨hblank, ?_⟩
  unfold misshapen at h
  split at h
  · obtain ⟨broken, -, h⟩ := bind_eq_ok_iff.mp h
    cases h
    rw [((Finding.mem_onlyIf _ _ _).mp hf).2]
    exact ⟨rfl, rfl⟩
  · cases h
    rw [((Finding.mem_onlyIf _ _ _).mp hf).2]
    exact ⟨rfl, rfl⟩
  · obtain ⟨number, -, h⟩ := bind_eq_ok_iff.mp h
    cases h
    rw [((Finding.mem_onlyIf _ _ _).mp hf).2]
    exact ⟨rfl, rfl⟩
  · cases h
    cases hf

/-- What a schema has to say of a node, field by field. -/
theorem mem_schemaFindings {owned : List Text} {schema : KindSchema} {found : List Finding}
    (h : n.schemaFindings owned schema = .ok found) (hf : f ∈ found) :
    (∃ spec, f ∈ n.missingField owned spec) ∨
      ∃ spec said, n.shapeFinding spec = .ok said ∧ f ∈ said := by
  obtain ⟨shapes, hshapes, h⟩ := bind_eq_ok_iff.mp h
  cases h
  rcases List.mem_append.mp hf with hf | hf
  · obtain ⟨spec, -, hf⟩ := List.mem_flatMap.mp hf
    exact .inl ⟨spec, hf⟩
  · obtain ⟨said, hsaid, hf⟩ := List.mem_flatten.mp hf
    obtain ⟨spec, -, hspec⟩ := exists_of_mem_mapM hshapes hsaid
    exact .inr ⟨spec, said, hspec, hf⟩

/-- **Who says what is found on the fields of a node**: it is the warning on the schema of its kind, a
missing value, a value that is misshapen, or something that a refinement says. -/
theorem mem_findingsBy {refinements : RefinementRegistry} {schema : Option KindSchema} {rejected : Bool}
    {found : List Finding} (h : n.findingsBy refinements schema rejected = .ok found) (hf : f ∈ found) :
    f = n.unreadableSchema ∨
      schema.isSome = true ∧ ((∃ spec, f ∈ n.missingField (refinements.ownedFields n.kind) spec) ∨
        ∃ spec said, n.shapeFinding spec = .ok said ∧ f ∈ said) ∨
      ∃ r ∈ refinements.forKind n.kind, f ∈ r.said n schema := by
  obtain ⟨general, hgeneral, rfl⟩ := exists_general_of_findingsBy h
  rcases List.mem_append.mp hf with hchecked | hrefined
  · rcases List.mem_append.mp hchecked with hunreadable | hschema
    · exact .inl ((Finding.mem_onlyIf _ _ _).mp hunreadable).2
    · cases schema with
      | none =>
        cases hgeneral
        cases hschema
      | some known => exact .inr (.inl ⟨rfl, mem_schemaFindings hgeneral hschema⟩)
  · exact .inr (.inr (List.mem_flatMap.mp hrefined))

/-- A field for credentials that is blank is reported, and nothing else is. -/
theorem mem_missingCredentials_iff {schema : KindSchema} :
    f ∈ n.missingCredentials schema ↔
      ∃ spec ∈ schema.fields, spec.holdsCredential = true ∧ (n.get spec.id).isBlank = true ∧
        f = .error .missingCredential (n.subject ++ " requires a credential") n.id spec.id := by
  simp [missingCredentials, KindSchema.credentialFields, and_assoc]

theorem nodeId_of_mem_missingCredentials {schema : KindSchema}
    (hf : f ∈ n.missingCredentials schema) : f.nodeId = some n.id := by
  obtain ⟨spec, -, -, -, rfl⟩ := mem_missingCredentials_iff.mp hf
  rfl

/-! ## 3. One missing value -/

variable {schema : KindSchema} {rejected : Bool} {found : List Finding}

/-- **All findings on the fields of a node are on the node.** -/
theorem nodeId_of_mem_findingsBy {schema : Option KindSchema}
    (h : n.findingsBy .builtin schema rejected = .ok found) (hf : f ∈ found) :
    f.nodeId = some n.id := by
  rcases mem_findingsBy h hf with rfl | ⟨-, ⟨spec, hf⟩ | ⟨spec, said, hsaid, hf⟩⟩ | ⟨r, hr, hf⟩
  · rfl
  · exact (mem_missingField hf).2.1
  · exact (mem_shapeFinding hsaid hf).2.1
  · exact Refinement.nodeId_of_mem_said hr hf

/-- **A missing required value is reported**: as a credential, by the owner of the field or by the
general check, unless it is a prompt that nobody judges. -/
theorem blames_of_missing (h : n.findingsBy .builtin (some schema) rejected = .ok found)
    (hspec : spec ∈ schema.requiredFields) (hmissing : (n.get spec.id).isMissing = true)
    (hjudged : spec.id = "prompt" → ¬ n.PromptUnjudged schema) :
    ∃ f ∈ found ++ n.missingCredentials schema, f.Blames n.id spec.id := by
  have hblank := Value.isBlank_of_isMissing hmissing
  obtain ⟨hfield, hrequired⟩ := List.mem_filter.mp hspec
  -- a field for credentials of this name is reported whatever the others do
  have hcredential (other : FieldSpec) (hother : other ∈ schema.fields) (hid : other.id = spec.id)
      (hholds : other.holdsCredential = true) :
      ∃ f ∈ found ++ n.missingCredentials schema, f.Blames n.id spec.id := by
    rw [← hid] at hblank ⊢
    exact ⟨_, List.mem_append_right _
      (mem_missingCredentials_iff.mpr ⟨other, hother, hholds, hblank, rfl⟩), rfl, rfl, rfl⟩
  obtain ⟨general, hgeneral, rfl⟩ := exists_general_of_findingsBy h
  obtain ⟨shapes, -, hgeneral⟩ := bind_eq_ok_iff.mp hgeneral
  cases hgeneral
  by_cases hholds : spec.holdsCredential = true
  · exact hcredential spec hfield rfl hholds
  by_cases howned : spec.id ∈ RefinementRegistry.builtin.ownedFields n.kind
  · obtain ⟨r, hr, hown⟩ := (RefinementRegistry.mem_ownedFields_iff _ _ _).mp howned
    rcases Refinement.blames_owned hr hown hblank (some schema) with
      ⟨f, hf, hblames⟩ | ⟨hkind, hid, htemperature⟩
    · refine ⟨f, List.mem_append_left _ (List.mem_append_right _ ?_), hblames⟩
      exact List.mem_flatMap.mpr ⟨r, hr, hf⟩
    · by_cases hsome : ∃ other ∈ schema.fields, other.id = "prompt" ∧ other.holdsCredential = true
      · obtain ⟨other, hother, hprompt, hholds⟩ := hsome
        exact hcredential other hother (hprompt.trans hid.symm) hholds
      · refine absurd ⟨hkind, htemperature, fun other hother hprompt => ?_⟩ (hjudged hid)
        exact Bool.eq_false_iff.mpr fun hholds => hsome ⟨other, hother, hprompt, hholds⟩
  · obtain ⟨f, hf, hblames⟩ := n.blames_missingField howned (Bool.eq_false_iff.mpr hholds) hmissing
    exact ⟨f, List.mem_append_left _ (List.mem_append_left _ (List.mem_append_right _
      (List.mem_append_left _ (List.mem_flatMap.mpr ⟨spec, hspec, hf⟩)))), hblames⟩

/-- **Nobody reports the prompt in that one case**: the owner has failed, the general check leaves it
to the owner, and it is no credential. -/
theorem PromptUnjudged.not_blames (hunjudged : n.PromptUnjudged schema)
    (hmissing : (n.get "prompt").isMissing = true)
    (h : n.findingsBy .builtin (some schema) rejected = .ok found) :
    ∀ f ∈ found ++ n.missingCredentials schema, ¬ f.Blames n.id "prompt" := by
  intro f hf hblames
  have hblank := Value.isBlank_of_isMissing hmissing
  have hforKind := Refinement.forKind_llm hunjudged.kind
  have howned : (Text.ofString "prompt") ∈ RefinementRegistry.builtin.ownedFields n.kind :=
    (RefinementRegistry.mem_ownedFields_iff _ _ _).mpr
      ⟨.languageModel, by rw [hforKind]; exact List.mem_singleton_self _, List.mem_singleton_self _⟩
  rcases List.mem_append.mp hf with hf | hcredential
  · rcases mem_findingsBy h hf with rfl | ⟨-, ⟨spec, hf⟩ | ⟨spec, said, hsaid, hf⟩⟩ | ⟨r, hr, hf⟩
    · cases hblames.severity
    · obtain ⟨hnot, -, hfield⟩ := mem_missingField hf
      have hid : spec.id = "prompt" := Option.some.inj (hfield.symm.trans hblames.fieldId)
      exact hnot (hid ▸ howned)
    · obtain ⟨hthere, -, hfield⟩ := mem_shapeFinding hsaid hf
      have hid : spec.id = "prompt" := Option.some.inj (hfield.symm.trans hblames.fieldId)
      rw [hid, hblank] at hthere
      cases hthere
    · obtain rfl := List.mem_singleton.mp (hforKind ▸ hr)
      rw [Refinement.said, Refinement.check_languageModel_of_not_fits hunjudged.temperature] at hf
      obtain rfl := List.mem_singleton.mp hf
      cases hblames.severity
  · obtain ⟨spec, hspec, hholds, -, rfl⟩ := mem_missingCredentials_iff.mp hcredential
    have hid : spec.id = "prompt" := Option.some.inj hblames.fieldId
    rw [hunjudged.credentials spec hspec hid] at hholds
    cases hholds

end Node

end WorkflowGate
