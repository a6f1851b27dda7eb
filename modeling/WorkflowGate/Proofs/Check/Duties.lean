/-
# Each missing value is reported once

Three checks report values that are not there: the general one, the refinements of a kind for the fields
that they own, and the check of credentials.  They share out the fields of the built-in palette.  What is
required falls to one of them, and what is not required to none, so a missing value is reported once.

They do not mean the same by missing.  White space is nothing to the check of credentials and to the
refinements, and something to the general check.  Whether it is reported is therefore a question of whose
field it is in.

* `KindSchema.SharedOut`: the fields of a schema are shared out, as those of the palette are
  (`Palette.sharedOut`);
* `Finding.countMissing`: how often a field is reported, and `Node.countMissing_missingFields`,
  `Node.countMissing_refinements`, `Node.countMissing_missingCredentials` for each of the three;
* `Node.countMissing_findingsBy`: **a field of a node is reported once if it lacks a value that it must
  have, and else not at all**;
* `Finding.Grave`: all such reports are errors.
-/
import WorkflowGate.Proofs.Check.Presence
import WorkflowGate.Proofs.Reporter

namespace WorkflowGate

open Result

/-- What is missing or white space is blank. -/
theorem Value.isMissing_or_isWhitespace_iff (v : Value) :
    v.isMissing = true ∨ v.IsWhitespace ↔ v.isBlank = true := by
  rw [isWhitespace_iff]
  constructor
  · rintro (hmissing | ⟨-, hblank⟩)
    · exact isBlank_of_isMissing hmissing
    · exact hblank
  · intro hblank
    cases hmissing : v.isMissing with
    | true => exact .inl rfl
    | false => exact .inr ⟨rfl, hblank⟩

/-! ## 1. Counting -/

/-- The codes under which a value is reported as missing. -/
def Code.missingValue : List Code :=
  [.missingRequiredField, .missingCredential, .missingPrompt, .missingCode, .missingCron,
    .missingWorkflowId]

namespace Finding

/-- The finding reports the value of a field of a node as missing. -/
def ReportsMissing (node field : Text) (f : Finding) : Prop :=
  f.nodeId = some node ∧ f.fieldId = some field ∧ f.code ∈ Code.missingValue

instance (node field : Text) : DecidablePred (ReportsMissing node field) :=
  fun _ => inferInstanceAs (Decidable (_ ∧ _ ∧ _))

/-- How often the value of a field of a node is reported as missing. -/
def countMissing (node field : Text) (fs : List Finding) : Nat :=
  fs.countP fun f => f.ReportsMissing node field

variable {node field : Text}

theorem countMissing_append (fs gs : List Finding) :
    countMissing node field (fs ++ gs) = countMissing node field fs + countMissing node field gs :=
  List.countP_append

theorem countMissing_eq_zero {fs : List Finding} (h : ∀ f ∈ fs, ¬ f.ReportsMissing node field) :
    countMissing node field fs = 0 :=
  List.countP_eq_zero.mpr fun f hf => by simpa using h f hf

/-- Under other codes nothing is reported as missing. -/
theorem countMissing_of_codes {fs : List Finding} (h : ∀ f ∈ fs, f.code ∉ Code.missingValue) :
    countMissing node field fs = 0 :=
  countMissing_eq_zero fun f hf hreports => h f hf hreports.2.2

theorem countMissing_onlyIf {f : Finding} {own : Text} (hf : f.ReportsMissing node own)
    (condition : Bool) :
    countMissing node field (onlyIf condition f) = if own = field ∧ condition = true then 1 else 0 := by
  have hiff : f.ReportsMissing node field ↔ own = field := by
    obtain ⟨hnode, hfield, hcode⟩ := hf
    simp [ReportsMissing, hnode, hfield, hcode]
  cases condition <;> simp [countMissing, onlyIf, hiff]

/-- **A check that goes through fields of different names reports each of them at most once.** -/
theorem countMissing_flatMap_onlyIf {specs : List FieldSpec} (hnodup : (specs.map FieldSpec.id).Nodup)
    {test : FieldSpec → Bool} {report : FieldSpec → Finding}
    (hreport : ∀ spec, (report spec).ReportsMissing node spec.id) :
    countMissing node field (specs.flatMap fun spec => onlyIf (test spec) (report spec)) =
      if ∃ spec ∈ specs, spec.id = field ∧ test spec = true then 1 else 0 := by
  induction specs with
  | nil => rfl
  | cons first rest ih =>
    rw [List.map_cons, List.nodup_cons] at hnodup
    rw [List.flatMap_cons, countMissing_append, countMissing_onlyIf (hreport first), ih hnodup.2]
    by_cases hfirst : first.id = field
    · have hrest : ¬ ∃ spec ∈ rest, spec.id = field ∧ test spec = true := by
        rintro ⟨spec, hspec, hid, -⟩
        exact hnodup.1 (List.mem_map.mpr ⟨spec, hspec, hid.trans hfirst.symm⟩)
      simp [hfirst, hrest]
    · simp [hfirst]

end Finding

open Finding

/-! ## 2. How fields are shared out -/

/-- **The fields of a schema are shared out**: no two have one name, fields for credentials are required,
and so are the fields that refinements own, which are not for credentials. -/
structure KindSchema.SharedOut (schema : KindSchema) (owned : List Text) : Prop where
  distinct : (schema.fields.map FieldSpec.id).Nodup
  required_of_credential : ∀ spec ∈ schema.fields, spec.holdsCredential = true → spec.required = true
  exists_of_owned : ∀ field ∈ owned, ∃ spec ∈ schema.fields,
    spec.id = field ∧ spec.required = true ∧ spec.holdsCredential = false

namespace KindSchema.SharedOut

variable {schema : KindSchema} {owned : List Text} {spec : FieldSpec}

/-- A question about the fields of one name is one about a single field. -/
theorem exists_filter_iff (h : schema.SharedOut owned) (hspec : spec ∈ schema.fields)
    {keep : FieldSpec → Bool} {p : FieldSpec → Prop} :
    (∃ other ∈ schema.fields.filter keep, other.id = spec.id ∧ p other) ↔
      keep spec = true ∧ p spec := by
  constructor
  · rintro ⟨other, hother, hid, hp⟩
    obtain ⟨hother, hkeep⟩ := List.mem_filter.mp hother
    obtain rfl := List.inj_on_of_nodup_map h.distinct hother hspec hid
    exact ⟨hkeep, hp⟩
  · rintro ⟨hkeep, hp⟩
    exact ⟨spec, List.mem_filter.mpr ⟨hspec, hkeep⟩, rfl, hp⟩

/-- **Whose field it is**: that of the check of credentials, of a refinement, or of the general check. -/
theorem cases_of_mem (h : schema.SharedOut owned) (hspec : spec ∈ schema.fields) :
    (spec.holdsCredential = true ∧ spec.required = true ∧ spec.id ∉ owned) ∨
      (spec.id ∈ owned ∧ spec.required = true ∧ spec.holdsCredential = false) ∨
        (spec.holdsCredential = false ∧ spec.id ∉ owned) := by
  by_cases howned : spec.id ∈ owned
  · obtain ⟨other, hother, hid, hrequired, hholds⟩ := h.exists_of_owned spec.id howned
    obtain rfl := List.inj_on_of_nodup_map h.distinct hother hspec hid
    exact .inr (.inl ⟨howned, hrequired, hholds⟩)
  · cases hholds : spec.holdsCredential with
    | true => exact .inl ⟨rfl, h.required_of_credential spec hspec hholds, howned⟩
    | false => exact .inr (.inr ⟨rfl, howned⟩)

end KindSchema.SharedOut

/-- **The fields of the palette are shared out.** -/
theorem Palette.sharedOut : ∀ schema ∈ Palette.schemas,
    schema.SharedOut (RefinementRegistry.builtin.ownedFields schema.kind) := by
  have hall : ∀ schema ∈ Palette.schemas,
      (schema.fields.map FieldSpec.id).Nodup ∧
      (∀ spec ∈ schema.fields, spec.holdsCredential = true → spec.required = true) ∧
      ∀ field ∈ RefinementRegistry.builtin.ownedFields schema.kind, ∃ spec ∈ schema.fields,
        spec.id = field ∧ spec.required = true ∧ spec.holdsCredential = false := by
    decide +kernel
  intro schema hschema
  obtain ⟨hdistinct, hcredential, howned⟩ := hall schema hschema
  exact ⟨hdistinct, hcredential, howned⟩

/-- Language models have a temperature, which is a number. -/
theorem Palette.exists_temperature : ∀ schema ∈ Palette.schemas, schema.kind ∈ Palette.llmKinds →
    ∃ spec ∈ schema.fields, spec.id = "temperature" ∧ spec.valueKind = .number := by
  decide +kernel

namespace Registry

/-- What is found in a registry of schemas is one of them, under its kind. -/
theorem mem_of_find?_ofList {schemas : List KindSchema} {kind : Text} {schema : KindSchema}
    (h : (ofList schemas).find? kind = some schema) : schema ∈ schemas ∧ schema.kind = kind := by
  have hfold (r : Registry) (h : (schemas.foldl put r).find? kind = some schema) :
      (schema ∈ schemas ∧ schema.kind = kind) ∨ r.find? kind = some schema := by
    clear * - h
    induction schemas generalizing r with
    | nil => exact .inr h
    | cons first rest ih =>
      rcases ih (r.put first) h with ⟨hmem, hkind⟩ | hput
      · exact .inl ⟨List.mem_cons_of_mem _ hmem, hkind⟩
      · by_cases hkind : first.kind = kind
        · subst hkind
          rw [find?_put] at hput
          obtain rfl := Option.some.inj hput
          exact .inl ⟨List.mem_cons_self, rfl⟩
        · rw [find?, put, OrderedMap.find?_insert_of_ne _ _ hkind] at hput
          exact .inr hput
  rcases hfold empty h with hmem | hnone
  · exact hmem
  · cases hnone

theorem sharedOut_of_find?_builtin {kind : Text} {schema : KindSchema}
    (h : builtin.find? kind = some schema) :
    schema.SharedOut (RefinementRegistry.builtin.ownedFields kind) := by
  obtain ⟨hmem, rfl⟩ := mem_of_find?_ofList h
  exact Palette.sharedOut schema hmem

end Registry

namespace Refinement

/-- Kinds outside the palette have no refinement. -/
theorem forKind_of_unknown {kind : Text} (h : Registry.builtin.find? kind = none) :
    RefinementRegistry.builtin.forKind kind = [] := by
  obtain hnone | ⟨r, hr, -⟩ := forKind_builtin_cases kind
  · exact hnone
  · have hknown : ∀ e ∈ builtinByKind, (Registry.builtin.find? e.1).isSome = true := by decide +kernel
    have hsome := hknown (kind, r) hr
    rw [h] at hsome
    cases hsome

/-! ## 3. What each check reports -/

/-- A check that requires a field reports it where it is blank. -/
theorem countMissing_requireField {code : Code} (hcode : code ∈ Code.missingValue)
    (what rest : String) (own : Text) (n : Node) (field : Text) :
    countMissing n.id field (requireField code what rest own n) =
      if field ∈ [own] ∧ (n.get field).isBlank = true then 1 else 0 := by
  have hreports : (error code (Text.ofString what ++ " \"" ++ n.displayName ++ "\" " ++
      Text.ofString rest) n.id own).ReportsMissing n.id own := ⟨rfl, rfl, hcode⟩
  rw [requireField, countMissing_onlyIf hreports]
  by_cases hown : own = field
  · simp [hown]
  · simp [hown, Ne.symm hown]

/-- What the refinement of language models says, unless it fails on the temperature. -/
theorem said_languageModel {n : Node} {t : Option Binary64}
    (ht : (n.get "temperature").asNumber = .ok t) (schema : Option KindSchema) :
    languageModel.said n schema =
      requireField .missingPrompt "LLM node" "requires a prompt" "prompt" n ++
        temperatureFindings n schema t := by
  simp only [said, languageModel, ht]

/-- The refinement of requests reports nothing as missing, since a body is only advised. -/
theorem not_missingValue_of_mem_httpRequest {n : Node} {schema : Option KindSchema} {f : Finding}
    (hf : f ∈ httpRequest.said n schema) : f.code ∉ Code.missingValue := by
  rcases mem_said hf with rfl | ⟨found, hcheck, hf⟩
  · exact (by decide : Code.refinementFailed ∉ Code.missingValue)
  simp only [httpRequest] at hcheck
  split at hcheck
  · cases hcheck
    rw [((mem_onlyIf _ _ _).mp hf).2]
    exact (by decide : Code.missingBody ∉ Code.missingValue)
  · cases hcheck
    cases hf

/-- **A built-in refinement reports the field that it owns where it is blank**, and nothing else as
missing.  That of language models must not have failed on the temperature. -/
theorem countMissing_said {kind : Text} {r : Refinement} (hr : (kind, r) ∈ builtinByKind) {n : Node}
    (htemperature : kind ∈ Palette.llmKinds → (n.get "temperature").FitsFloat)
    (schema : Option KindSchema) (field : Text) :
    countMissing n.id field (r.said n schema) =
      if field ∈ r.owns ∧ (n.get field).isBlank = true then 1 else 0 := by
  rcases List.mem_append.mp hr with hllm | hother
  · obtain ⟨known, hknown, heq⟩ := List.mem_map.mp hllm
    obtain ⟨rfl, rfl⟩ := Prod.mk.inj heq
    obtain ⟨t, ht⟩ := (Value.succeeds_asNumber_iff _).mpr (htemperature hknown)
    have hothers : countMissing n.id field (temperatureFindings n schema t) = 0 := by
      refine countMissing_of_codes fun f hf => ?_
      cases t with
      | none => cases hf
      | some x =>
        rw [((mem_onlyIf _ _ _).mp hf).2]
        exact (by decide : Code.invalidTemperature ∉ Code.missingValue)
    rw [said_languageModel ht, countMissing_append, hothers, Nat.add_zero,
      countMissing_requireField (by decide) _ _ _ n field]
    rfl
  · simp only [List.mem_cons, Prod.mk.injEq, List.not_mem_nil, or_false] at hother
    rcases hother with ⟨-, rfl⟩ | ⟨-, rfl⟩ | ⟨-, rfl⟩ | ⟨-, rfl⟩
    · have hnone : countMissing n.id field (httpRequest.said n schema) = 0 :=
        countMissing_of_codes fun _ hf => not_missingValue_of_mem_httpRequest hf
      rw [hnone, if_neg fun howned => List.not_mem_nil howned.1]
    · exact countMissing_requireField (by decide) _ _ _ n field
    · exact countMissing_requireField (by decide) _ _ _ n field
    · exact countMissing_requireField (by decide) _ _ _ n field

end Refinement

namespace Node

variable {n : Node} {schema : KindSchema} {owned : List Text} {field : Text}

/-- **The general check reports what is missing in required fields that are left to nobody.** -/
theorem countMissing_missingFields (hdistinct : (schema.fields.map FieldSpec.id).Nodup) :
    countMissing n.id field (n.missingFields owned schema) =
      if ∃ spec ∈ schema.requiredFields, spec.id = field ∧
        (!owned.contains spec.id && !spec.holdsCredential && (n.get spec.id).isMissing) = true
      then 1 else 0 :=
  countMissing_flatMap_onlyIf ((List.filter_sublist.map _).nodup hdistinct) fun _ =>
    ⟨rfl, rfl, (by decide : Code.missingRequiredField ∈ Code.missingValue)⟩

/-- **The check of credentials reports what is blank in fields for credentials.** -/
theorem countMissing_missingCredentials (hdistinct : (schema.fields.map FieldSpec.id).Nodup) :
    countMissing n.id field (n.missingCredentials schema) =
      if ∃ spec ∈ schema.credentialFields, spec.id = field ∧ (n.get spec.id).isBlank = true
      then 1 else 0 :=
  countMissing_flatMap_onlyIf ((List.filter_sublist.map _).nodup hdistinct) fun _ =>
    ⟨rfl, rfl, (by decide : Code.missingCredential ∈ Code.missingValue)⟩

/-- **The refinements report what is blank in the fields that they own.** -/
theorem countMissing_refinements
    (htemperature : n.kind ∈ Palette.llmKinds → (n.get "temperature").FitsFloat)
    (known : Option KindSchema) :
    countMissing n.id field (RefinementRegistry.builtin.said n known) =
      if field ∈ RefinementRegistry.builtin.ownedFields n.kind ∧ (n.get field).isBlank = true
      then 1 else 0 := by
  rw [RefinementRegistry.said, RefinementRegistry.ownedFields]
  obtain hnone | ⟨r, hr, hone⟩ := Refinement.forKind_builtin_cases n.kind
  · rw [hnone]
    simp [countMissing]
  · rw [hone, List.flatMap_singleton, List.flatMap_singleton]
    exact Refinement.countMissing_said hr htemperature known field

/-! ## 4. One node -/

/-- **A value that must be there is not**: the field is required, and holds nothing, or white space where
it is for credentials or a refinement owns it.  Fields for credentials only count where they are checked. -/
def Lacks (n : Node) (owned : List Text) (credentials : Bool) (schema : KindSchema) (field : Text) :
    Prop :=
  ∃ spec ∈ schema.requiredFields, spec.id = field ∧
    (spec.holdsCredential = true → credentials = true) ∧
      ((n.get spec.id).isMissing = true ∨
        (n.get spec.id).IsWhitespace ∧ (spec.holdsCredential = true ∨ spec.id ∈ owned))

instance (n : Node) (owned : List Text) (credentials : Bool) (schema : KindSchema) :
    DecidablePred (n.Lacks owned credentials schema) :=
  fun _ => inferInstanceAs (Decidable (∃ spec ∈ schema.requiredFields, _))

/-- **What the three checks report of a field comes to one finding where it lacks its value**, and else to
none, since it falls to one of them if it is there at all. -/
theorem countMissing_shared (hshared : schema.SharedOut owned) (credentials : Bool) (field : Text) :
    (if ∃ spec ∈ schema.requiredFields, spec.id = field ∧
          (!owned.contains spec.id && !spec.holdsCredential && (n.get spec.id).isMissing) = true
        then 1 else 0) +
      (if field ∈ owned ∧ (n.get field).isBlank = true then 1 else 0) +
      (if credentials = true ∧ ∃ spec ∈ schema.credentialFields, spec.id = field ∧
          (n.get spec.id).isBlank = true then 1 else 0) =
    if n.Lacks owned credentials schema field then 1 else 0 := by
  rw [KindSchema.requiredFields, KindSchema.credentialFields]
  by_cases hfield : ∃ spec ∈ schema.fields, spec.id = field
  · obtain ⟨spec, hspec, rfl⟩ := hfield
    have hlacks : n.Lacks owned credentials schema spec.id ↔ spec.required = true ∧
        (spec.holdsCredential = true → credentials = true) ∧
          ((n.get spec.id).isMissing = true ∨
            (n.get spec.id).IsWhitespace ∧ (spec.holdsCredential = true ∨ spec.id ∈ owned)) :=
      hshared.exists_filter_iff hspec
    have hblank := Value.isMissing_or_isWhitespace_iff (n.get spec.id)
    simp only [hlacks, hshared.exists_filter_iff hspec]
    -- one of the three summands is left, with what its check means by missing
    rcases hshared.cases_of_mem hspec with ⟨hholds, hrequired, howned⟩ |
      ⟨howned, hrequired, hholds⟩ | ⟨hholds, howned⟩
    · simp [hholds, hrequired, howned, hblank]
    · simp [hholds, hrequired, howned, hblank]
    · simp [hholds, howned]
  · have hnone {keep : FieldSpec → Bool} {p : FieldSpec → Prop} :
        ¬ ∃ spec ∈ schema.fields.filter keep, spec.id = field ∧ p spec := by
      rintro ⟨spec, hspec, hid, -⟩
      exact hfield ⟨spec, (List.mem_filter.mp hspec).1, hid⟩
    have howned : field ∉ owned := fun hmem => by
      obtain ⟨spec, hspec, hid, -⟩ := hshared.exists_of_owned field hmem
      exact hfield ⟨spec, hspec, hid⟩
    have hlacks : ¬ n.Lacks owned credentials schema field := hnone
    rw [if_neg hnone, if_neg fun h => howned h.1, if_neg fun h => hnone h.2, if_neg hlacks]

/-- Where the fields of a language model could be held against its schema, its temperature is within
the range of floats. -/
theorem fitsFloat_temperature {refinements : RefinementRegistry} {rejected : Bool}
    {found : List Finding} (h : n.findingsBy refinements (some schema) rejected = .ok found)
    (hschema : Registry.builtin.find? n.kind = some schema) (hkind : n.kind ∈ Palette.llmKinds) :
    (n.get "temperature").FitsFloat := by
  obtain ⟨hmem, hsame⟩ := Registry.mem_of_find?_ofList hschema
  obtain ⟨spec, hspec, hid, hnumber⟩ := Palette.exists_temperature schema hmem (hsame ▸ hkind)
  have hjudged : n.JudgeableField spec :=
    ((n.succeeds_findingsBy_iff _ _ _).mp ⟨found, h⟩).1 schema rfl spec hspec
  rw [JudgeableField, hid, hnumber] at hjudged
  -- only an integer can be out of range, and it is neither blank nor an expression
  cases hvalue : n.get "temperature" with
  | int i =>
    rw [hvalue] at hjudged
    exact hjudged rfl rfl
  | _ => trivial

/-- Values without the shape of their field are not reported as missing. -/
theorem countMissing_shapes {shapes : List (List Finding)}
    (h : schema.fields.mapM n.shapeFinding = .ok shapes) :
    countMissing n.id field shapes.flatten = 0 := by
  refine countMissing_of_codes fun f hf => ?_
  obtain ⟨said, hsaid, hf⟩ := List.mem_flatten.mp hf
  obtain ⟨spec, -, hspec⟩ := exists_of_mem_mapM h hsaid
  have hcodes : ∀ code ∈ shapeCodes, code ∉ Code.missingValue := by decide
  exact hcodes f.code (code_mem_of_mem_shapeFinding hspec hf)

/-- **A field of a node is reported once if it lacks a value that it must have, and else not at all**,
where the kind of the node is in the palette. -/
theorem countMissing_findingsBy {rejected : Bool} {found : List Finding}
    (h : n.findingsBy .builtin (some schema) rejected = .ok found)
    (hschema : Registry.builtin.find? n.kind = some schema) (credentials : Bool) (field : Text) :
    countMissing n.id field (found ++ if credentials then n.missingCredentials schema else []) =
      if n.Lacks (RefinementRegistry.builtin.ownedFields n.kind) credentials schema field
      then 1 else 0 := by
  have hshared := Registry.sharedOut_of_find?_builtin hschema
  have htemperature := fitsFloat_temperature h hschema
  obtain ⟨general, hgeneral, rfl⟩ := exists_general_of_findingsBy h
  obtain ⟨shapes, hshapes, hgeneral⟩ := bind_eq_ok_iff.mp hgeneral
  cases hgeneral
  have hcredentials :
      countMissing n.id field (if credentials then n.missingCredentials schema else []) =
        if credentials = true ∧ ∃ spec ∈ schema.credentialFields, spec.id = field ∧
          (n.get spec.id).isBlank = true then 1 else 0 := by
    cases credentials with
    | true => simpa using countMissing_missingCredentials hshared.distinct
    | false => rfl
  simp only [countMissing_append, hcredentials, countMissing_refinements htemperature,
    countMissing_missingFields hshared.distinct, countMissing_shapes hshapes, Nat.add_zero]
  rw [← countMissing_shared hshared credentials field]
  simp [Finding.onlyIf, countMissing]

/-- Of a node whose kind is not in the palette nothing is reported as missing. -/
theorem countMissing_of_unknown {rejected : Bool} {found : List Finding}
    (h : n.findingsBy .builtin none rejected = .ok found)
    (hunknown : Registry.builtin.find? n.kind = none) (field : Text) :
    countMissing n.id field found = 0 := by
  obtain ⟨general, hgeneral, rfl⟩ := exists_general_of_findingsBy h
  cases hgeneral
  rw [RefinementRegistry.said, Refinement.forKind_of_unknown hunknown]
  refine countMissing_of_codes fun f hf => ?_
  simp only [List.flatMap_nil, List.append_nil] at hf
  rw [((Finding.mem_onlyIf _ _ _).mp hf).2]
  exact (by decide : Code.invalidNodeSchema ∉ Code.missingValue)

end Node

/-! ## 5. Errors -/

/-- The finding is an error if it reports a value as missing. -/
def Finding.Grave (f : Finding) : Prop := f.code ∈ Code.missingValue → f.severity = .error

/-- **What a built-in refinement reports as missing is an error.** -/
theorem Refinement.grave_of_mem_said {kind : Text} {r : Refinement}
    (hr : r ∈ RefinementRegistry.builtin.forKind kind) {n : Node} {schema : Option KindSchema}
    {f : Finding} (hf : f ∈ r.said n schema) : f.Grave := by
  intro hcode
  rcases builtin_cases hr with ⟨-, rfl⟩ | rfl | ⟨name, code, what, rest, own, rfl⟩
  · cases hnumber : (n.get "temperature").asNumber with
    | error fault =>
      have hfailed : languageModel.check n schema = .error rangeReason := by
        simp only [languageModel, hnumber]
      rw [said, hfailed, List.mem_singleton] at hf
      rw [hf] at hcode
      exact absurd hcode (by decide : Code.refinementFailed ∉ Code.missingValue)
    | ok t =>
      rw [said_languageModel hnumber] at hf
      rcases List.mem_append.mp hf with hf | hf
      · rw [((Finding.mem_onlyIf _ _ _).mp hf).2]
        rfl
      · cases t with
        | none => cases hf
        | some x =>
          rw [((Finding.mem_onlyIf _ _ _).mp hf).2]
          rfl
  · exact absurd hcode (not_missingValue_of_mem_httpRequest hf)
  · have hrequired : f ∈ requireField code what rest own n := hf
    rw [((Finding.mem_onlyIf _ _ _).mp hrequired).2]
    rfl

namespace Node

variable {n : Node} {f : Finding}

/-- **What is reported as missing among the fields of a node is an error.** -/
theorem grave_of_mem_findingsBy {schema : Option KindSchema} {rejected : Bool} {found : List Finding}
    (h : n.findingsBy .builtin schema rejected = .ok found) (hf : f ∈ found) : f.Grave := by
  rcases mem_findingsBy h hf with rfl | ⟨-, ⟨spec, hf⟩ | ⟨spec, said, hsaid, hf⟩⟩ | ⟨r, hr, hf⟩
  · exact fun hcode => absurd hcode (by decide : Code.invalidNodeSchema ∉ Code.missingValue)
  · rw [((Finding.mem_onlyIf _ _ _).mp hf).2]
    exact fun _ => rfl
  · have hcodes : ∀ code ∈ shapeCodes, code ∉ Code.missingValue := by decide
    exact fun hcode => absurd hcode (hcodes f.code (code_mem_of_mem_shapeFinding hsaid hf))
  · exact Refinement.grave_of_mem_said hr hf

theorem grave_of_mem_missingCredentials {schema : KindSchema}
    (hf : f ∈ n.missingCredentials schema) : f.Grave := by
  obtain ⟨spec, -, -, -, rfl⟩ := mem_missingCredentials_iff.mp hf
  exact fun _ => rfl

end Node

end WorkflowGate
