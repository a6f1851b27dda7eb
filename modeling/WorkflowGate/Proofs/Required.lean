/-
# What a run says of missing values

Whatever the registry and the lookup are, a run with the built-in refinements that checks credentials
and ends with a report has an error on every required value that is missing, for every node whose kind
has resolved to a schema.  There is one exception, the prompt that nobody judges (`PromptUnjudged`), and
there the report has no such error at all.

* `Gate.Finds.sparesPrompt`: no check but those of fields and credentials accuses a prompt;
* `Gate.exists_accounts`: the report has what the two checks find, and without a back end no other
  error on a prompt;
* `Gate.blames_missing`: **when a missing required value is an error of the report**;
* `Gate.not_blames_overheated`: a report without an error on a missing prompt.
-/
import WorkflowGate.Proofs.Check.Missing
import WorkflowGate.Proofs.Checks
import WorkflowGate.Proofs.Graph.Ledger

namespace WorkflowGate

open Result Run

variable {final : Resolver}

/-! ## 1. All other checks -/

/-- The finding accuses no prompt. -/
def Finding.SparesPrompt (f : Finding) : Prop :=
  f.severity = .error → f.fieldId ≠ some (Text.ofString "prompt")

theorem Finding.sparesPrompt_of_severity {f : Finding} (h : f.severity ≠ .error) : f.SparesPrompt :=
  fun herror => absurd herror h

theorem Finding.sparesPrompt_of_none {f : Finding} (h : f.fieldId = none) : f.SparesPrompt := by
  intro _ hfield
  rw [h] at hfield
  cases hfield

theorem Finding.sparesPrompt_of_some {f : Finding} {field : Text} (h : f.fieldId = some field)
    (hne : field ≠ Text.ofString "prompt") : f.SparesPrompt :=
  fun _ hfield => hne (Option.some.inj (h.symm.trans hfield))

namespace Snapshot

variable (s : Snapshot)

theorem fieldId_of_mem_triggerAdvice {triggers : List Text} {f : Finding}
    (hf : f ∈ s.triggerAdvice triggers) : f.fieldId = none := by
  simp only [triggerAdvice] at hf
  split at hf
  · rw [List.mem_singleton.mp hf]
    rfl
  · split at hf
    · rw [List.mem_singleton.mp hf]
      rfl
    · cases hf

theorem fieldId_of_mem_cycleFindings {report : CycleReport} {f : Finding}
    (hf : f ∈ s.cycleFindings report) : f.fieldId = none := by
  rw [cycleFindings] at hf
  split at hf
  · cases hf
  · split at hf
    · cases hf
    · rcases List.mem_cons.mp hf with rfl | hf
      · rfl
      · obtain ⟨id, -, rfl⟩ := List.mem_map.mp hf
        rfl

theorem fieldId_of_mem_reachabilityFindings {report : Reachability} {orphans : List Text}
    {f : Finding} (hf : f ∈ s.reachabilityFindings report orphans) : f.fieldId = none := by
  simp only [reachabilityFindings] at hf
  split at hf
  · cases hf
  · rcases List.mem_append.mp hf with hf | hf
    · obtain ⟨id, -, rfl⟩ := List.mem_map.mp hf
      rfl
    · obtain ⟨id, -, rfl⟩ := List.mem_map.mp hf
      rfl

theorem fieldId_of_mem_orphanFindings {orphans : List Text} {f : Finding}
    (hf : f ∈ s.orphanFindings orphans) : f.fieldId = none := by
  obtain ⟨id, -, rfl⟩ := List.mem_map.mp hf
  rfl

/-- The errors on branches are on conditions. -/
theorem sparesPrompt_of_mem_branchFindings {found : List Finding} (h : s.branchFindings = .ok found)
    {f : Finding} (hf : f ∈ found) : f.SparesPrompt := by
  obtain ⟨n, -, part, hpart, hf⟩ := exists_of_mem_flatten_mapM h hf
  have hwarning (condition : Bool) {code : Code} {message : Text} {node field : Option Text}
      (hf : f ∈ Finding.onlyIf condition (.warning code message node field)) : f.SparesPrompt := by
    rw [((Finding.mem_onlyIf _ _ _).mp hf).2]
    exact Finding.sparesPrompt_of_severity (fun h => (nomatch h))
  rw [branchFindingsOf] at hpart
  split at hpart
  · cases hpart
    rcases List.mem_append.mp hf with hf | hf
    · rw [((Finding.mem_onlyIf _ _ _).mp hf).2]
      exact Finding.sparesPrompt_of_some rfl (by decide)
    · unfold outcomeFindings at hf
      split at hf
      · exact hwarning true hf
      · exact hwarning _ hf
  · split at hpart
    · obtain ⟨count, -, hpart⟩ := bind_eq_ok_iff.mp hpart
      cases hpart
      rcases List.mem_append.mp hf with hf | hf
      · exact hwarning _ hf
      · exact hwarning _ hf
    · cases hpart
      cases hf

/-- The errors on timeouts are on timeouts. -/
theorem sparesPrompt_of_mem_timeoutFindings {settings : Settings} {found : List Finding}
    (h : s.timeoutFindings settings = .ok found) {f : Finding} (hf : f ∈ found) :
    f.SparesPrompt := by
  obtain ⟨n, -, part, hpart, hf⟩ := exists_of_mem_flatten_mapM h hf
  have htimeout {code : Code} {message : Text} {node : Text}
      (hf : f ∈ [Finding.error code message node Node.timeoutField]) : f.SparesPrompt := by
    rw [List.mem_singleton.mp hf]
    exact Finding.sparesPrompt_of_some rfl (by decide)
  rw [Node.timeoutFindings] at hpart
  obtain ⟨declared, -, hpart⟩ := bind_eq_ok_iff.mp hpart
  cases declared with
  | none =>
    cases hpart
    cases hf
  | some timeout =>
    by_cases hpositive : timeout.le .zero = true
    · simp only [Node.timeoutError, hpositive, if_true] at hpart
      cases hpart
      exact htimeout hf
    · simp only [Node.timeoutError, hpositive, Bool.false_eq_true, if_false] at hpart
      obtain ⟨exceeds, -, hpart⟩ := bind_eq_ok_iff.mp hpart
      split at hpart
      · obtain ⟨shown, -, hpart⟩ := bind_eq_ok_iff.mp hpart
        cases hpart
        exact htimeout hf
      · cases hpart
        cases hf

/-- Findings on handles only warn. -/
theorem severity_of_mem_handleFindingsBy {answer : Text → Option KindSchema} {e : Edge} {f : Finding}
    (hf : f ∈ s.handleFindingsBy answer e) : f.severity = .warning := by
  have hend {id : Text} {handle : Option Text} {declared : KindSchema → Option (List Text)}
      {code : Code} {edgeTo what : String}
      (hf : f ∈ s.endFindingsBy answer id handle declared code edgeTo what) :
      f.severity = .warning := by
    unfold endFindingsBy at hf
    split at hf
    · rw [((Finding.mem_onlyIf _ _ _).mp hf).2]
      rfl
    · cases hf
  rcases List.mem_append.mp hf with hf | hf
  · exact hend hf
  · exact hend hf

end Snapshot

/-! ## 2. The run -/

namespace Gate

/-- **No check but those of fields and credentials accuses a prompt.** -/
theorem Finds.sparesPrompt {g : Gate} {o : Options} {s : Snapshot} {found : Check → List Finding}
    (h : g.Finds o s final found) (hs : ∀ f ∈ s.findings, f.severity = .warning) {f : Finding}
    (hf : f ∈ Check.all.flatMap found) :
    f ∈ found .fields ∨ f ∈ found .credentials ∨ f.SparesPrompt := by
  have hwarning (h : f.severity = .warning) : f.SparesPrompt :=
    Finding.sparesPrompt_of_severity fun herror => (nomatch h.symm.trans herror)
  obtain ⟨check, -, hf⟩ := List.mem_flatMap.mp hf
  cases check with
  | input => exact .inr (.inr (hwarning (hs f (h.input ▸ hf))))
  | triggers =>
    rw [h.triggers] at hf
    exact .inr (.inr (Finding.sparesPrompt_of_none (s.fieldId_of_mem_triggerAdvice hf)))
  | cycles =>
    obtain ⟨report, -, hcycles⟩ := h.cycles
    rw [hcycles] at hf
    exact .inr (.inr (Finding.sparesPrompt_of_none (s.fieldId_of_mem_cycleFindings hf)))
  | connections =>
    obtain ⟨report, -, hconnections⟩ := h.connections
    rw [hconnections] at hf
    rcases List.mem_append.mp hf with hf | hf
    · exact .inr (.inr (Finding.sparesPrompt_of_none (s.fieldId_of_mem_reachabilityFindings hf)))
    · exact .inr (.inr (Finding.sparesPrompt_of_none (s.fieldId_of_mem_orphanFindings hf)))
  | fields => exact .inl hf
  | credentials => exact .inr (.inl hf)
  | branches => exact .inr (.inr (s.sparesPrompt_of_mem_branchFindings h.branches hf))
  | timeouts => exact .inr (.inr (s.sparesPrompt_of_mem_timeoutFindings h.timeouts hf))
  | complexity =>
    obtain ⟨large, advice, hlarge, hadvice, hcomplexity⟩ := h.complexity
    rw [hcomplexity] at hf
    rcases List.mem_append.mp hf with hf | hf
    · exact .inr (.inr (hwarning (Snapshot.severity_of_adviseCount hlarge f hf)))
    · exact .inr (.inr (hwarning (s.severity_of_mem_advice hadvice f hf)))
  | handles =>
    rw [h.handles] at hf
    obtain ⟨e, -, hf⟩ := List.mem_flatMap.mp hf
    exact .inr (.inr (hwarning (s.severity_of_mem_handleFindingsBy hf)))

variable {g : Gate} {o : Options} {mayWait : Bool} {nodes : Batch Node} {edges : Batch Edge}
  {t : Transport} {s : Snapshot} {report : Report}

/-- **The report on a canvas**: it has the errors on fields and on credentials, by the schemas that the
run leaves resolved, and where nobody is asked no others that accuse a prompt. -/
structure Accounts (g : Gate) (o : Options) (s : Snapshot) (final : Resolver) (report : Report)
    (fields credentials : List Finding) : Prop where
  onFields : s.FieldsFound final g.refinements fields
  onCredentials : o.checkCredentials.truthy = true → s.CredentialsFound final credentials
  extends_begin : (Run.begin g.schemas o.lookup).resolver.Extends final
  every : ∀ f ∈ fields ++ credentials, f.severity = .error → f ∈ report.errors
  only : o.withBackend.truthy = false →
    ∀ f ∈ report.errors, f ∈ fields ∨ f ∈ credentials ∨ f.SparesPrompt

theorem exists_accounts (hlists : (nodes.isList && edges.isList) = true)
    (hs : Snapshot.ofBatches nodes edges = .ok s) (hnodes : s.isEmpty = false)
    (hreport : (g.validate o mayWait nodes edges t).result = .ok report) :
    ∃ fields credentials,
      Accounts g o s (g.resolved o mayWait nodes edges) report fields credentials := by
  have hwarnings : ∀ f ∈ s.findings, f.severity = .warning := by
    obtain ⟨ns, es, nodeReadings, edgeReadings, -, -, rfl⟩ := Snapshot.ofBatches_eq_ok_iff.mp hs
    exact fun f hf => (Snapshot.balanced_ofReadings nodeReadings edgeReadings).severity_eq hf
  obtain ⟨hextends, found, more, hfound, rfl, hmore, -⟩ := exists_finds hlists hs hnodes hreport
  refine ⟨found .fields, found .credentials, hfound.fields, hfound.credentials, hextends,
    fun f hf hseverity => ?_, fun hunwanted f hf => ?_⟩
  · have hown : f ∈ Check.all.flatMap found := by
      rcases List.mem_append.mp hf with hf | hf
      · exact List.mem_flatMap.mpr ⟨.fields, by decide, hf⟩
      · exact List.mem_flatMap.mpr ⟨.credentials, by decide, hf⟩
    exact List.mem_filter.mpr ⟨List.mem_append_left _ hown, decide_eq_true hseverity⟩
  · obtain ⟨hf, -⟩ := List.mem_filter.mp hf
    rw [hmore hunwanted, List.append_nil] at hf
    exact hfound.sparesPrompt hwarnings hf

/-- Without a lookup a kind resolves to the schema that the registry has for it. -/
theorem Accounts.answer_eq {final : Resolver} {fields credentials : List Finding}
    (h : Accounts g o s final report fields credentials) (hlookup : o.lookup = none) {n : Node}
    (hn : n ∈ s.nodeList) (hkind : n.kind.isEmpty = false) :
    final.answer n.kind = g.schemas.find? n.kind := by
  obtain ⟨hempty | ⟨schema, hkept⟩, -⟩ := h.onFields.every n hn hkind
  · rw [hempty] at hkind
    cases hkind
  · rcases h.extends_begin.loaded n.kind schema hkept with hold | ⟨asked, loaded, hload, rfl⟩
    · cases hold
    · rw [hlookup] at hload
      cases hload
      simp only [Resolver.answer, hkind, hkept, Bool.false_eq_true, if_false, Option.join_some]
      rfl

variable {n : Node} {schema : KindSchema} {spec : FieldSpec}

/-- **A missing required value is an error of the report**, unless it is a prompt that nobody judges. -/
theorem exists_error_of_missing (hrefinements : g.refinements = .builtin)
    (hcredentials : o.checkCredentials.truthy = true)
    {final : Resolver} {fields credentials : List Finding}
    (h : Accounts g o s final report fields credentials) (hn : n ∈ s.nodeList)
    (hschema : final.answer n.kind = some schema) (hspec : spec ∈ schema.requiredFields)
    (hmissing : (n.get spec.id).isMissing = true)
    (hjudged : ¬ (spec.id = "prompt" ∧ n.PromptUnjudged schema)) :
    ∃ f ∈ report.errors, f.Blames n.id spec.id := by
  obtain ⟨-, rejected, found, hjudge, hall⟩ :=
    h.onFields.every n hn (Resolver.named_of_answer hschema)
  rw [hschema, hrefinements] at hjudge
  obtain ⟨f, hf, hblames⟩ := n.blames_of_missing hjudge hspec hmissing
    fun hid hunjudged => hjudged ⟨hid, hunjudged⟩
  refine ⟨f, h.every f ?_ hblames.severity, hblames⟩
  rcases List.mem_append.mp hf with hf | hf
  · exact List.mem_append_left _ (hall f hf)
  · exact List.mem_append_right _ ((h.onCredentials hcredentials).every n hn schema hschema f hf)

/-- **A prompt that nobody judges is no error of the report**, where nobody is asked. -/
theorem not_blames_of_unjudged (hrefinements : g.refinements = .builtin)
    (hcredentials : o.checkCredentials.truthy = true) (hunwanted : o.withBackend.truthy = false)
    (hs : s.Consistent) {final : Resolver} {fields credentials : List Finding}
    (h : Accounts g o s final report fields credentials) (hn : n ∈ s.nodeList)
    (hschema : final.answer n.kind = some schema) (hmissing : (n.get "prompt").isMissing = true)
    (hunjudged : n.PromptUnjudged schema) :
    ∀ f ∈ report.errors, ¬ f.Blames n.id "prompt" := by
  intro f hf hblames
  obtain ⟨-, rejected, found, hjudge, -⟩ :=
    h.onFields.every n hn (Resolver.named_of_answer hschema)
  rw [hschema, hrefinements] at hjudge
  have hfields := h.onFields
  rw [hrefinements] at hfields
  -- findings on fields and credentials are on their nodes, and no other node has this id
  rcases h.only hunwanted f hf with hf | hf | hspares
  · obtain ⟨m, hm, rejected', found', hjudge', hf⟩ := hfields.only f hf
    obtain rfl : m = n := hs.eq_of_id_eq hm hn
      (Option.some.inj ((Node.nodeId_of_mem_findingsBy hjudge' hf).symm.trans hblames.nodeId))
    rw [hschema] at hjudge'
    exact hunjudged.not_blames hmissing hjudge' f (List.mem_append_left _ hf) hblames
  · obtain ⟨m, hm, known, hknown, hf⟩ := (h.onCredentials hcredentials).only f hf
    obtain rfl : m = n := hs.eq_of_id_eq hm hn
      (Option.some.inj ((Node.nodeId_of_mem_missingCredentials hf).symm.trans hblames.nodeId))
    obtain rfl := Option.some.inj (hknown.symm.trans hschema)
    exact hunjudged.not_blames hmissing hjudge f (List.mem_append_right _ hf) hblames
  · exact hspares hblames.severity hblames.fieldId

/-- **When a missing required value is an error of the report**: always, but for a prompt that nobody
judges, and there never, unless a back end reports it. -/
theorem blames_missing (hrefinements : g.refinements = .builtin)
    (hcredentials : o.checkCredentials.truthy = true)
    (hlists : (nodes.isList && edges.isList) = true)
    (hs : Snapshot.ofBatches nodes edges = .ok s)
    (hreport : (g.validate o mayWait nodes edges t).result = .ok report) (hn : n ∈ s.nodeList)
    (hschema : (g.resolved o mayWait nodes edges).answer n.kind = some schema)
    (hspec : spec ∈ schema.requiredFields) (hmissing : (n.get spec.id).isMissing = true) :
    (¬ (spec.id = "prompt" ∧ n.PromptUnjudged schema) →
        ∃ f ∈ report.errors, f.Blames n.id spec.id) ∧
      (o.withBackend.truthy = false → spec.id = "prompt" ∧ n.PromptUnjudged schema →
        ∀ f ∈ report.errors, ¬ f.Blames n.id spec.id) := by
  obtain ⟨fields, credentials, haccounts⟩ :=
    exists_accounts hlists hs (s.isEmpty_of_mem_nodeList hn) hreport
  constructor
  · exact exists_error_of_missing hrefinements hcredentials haccounts hn hschema hspec hmissing
  · rintro hunwanted ⟨hid, hunjudged⟩
    rw [hid] at hmissing ⊢
    exact not_blames_of_unjudged hrefinements hcredentials hunwanted
      (Snapshot.consistent_of_ofBatches hs) haccounts hn hschema hmissing hunjudged

/-! ## 3. A missing prompt -/

/-- A schema that requires a prompt and nothing else. -/
def promptSchema : KindSchema :=
  { kind := "openai", fields := [{ id := "prompt", required := true }] }

/-- A gate that knows no other kinds. -/
def promptGate : Gate := { registry := .ofList [promptSchema] }

/-- A language model with this temperature and no prompt, as it is handed over. -/
def unprompted (temperature : Value) : Value :=
  .ofFields [("id", .text "A"), ("kind", .text "openai"),
    ("config", .ofFields [("temperature", temperature)])]

/-- The node that it is read as. -/
def unpromptedNode (temperature : Value) : Node :=
  ⟨"A", "openai", [("temperature", temperature)], none, none⟩

/-- The canvas of that node alone. -/
def unpromptedSnapshot (temperature : Value) : Snapshot :=
  Snapshot.ofReadings [.node (unpromptedNode temperature)] []

theorem mem_unpromptedSnapshot (temperature : Value) :
    unpromptedNode temperature ∈ (unpromptedSnapshot temperature).nodeList :=
  (List.mem_cons_self : _ ∈ [unpromptedNode temperature])

/-- The run on that canvas ends with a report, and its kind has resolved to the one schema. -/
theorem exists_report_unprompted (temperature : Value)
    (hs : Snapshot.ofBatches (.ofValue (.list [unprompted temperature])) (.ofValue (.list [])) =
      .ok (unpromptedSnapshot temperature))
    (hestimate : (unpromptedSnapshot temperature).estimateRuntime {} ≠ .ok (.infinite false))
    (t : Transport) :
    ∃ report fields credentials,
      (promptGate.validate {} true (.ofValue (.list [unprompted temperature])) (.ofValue (.list []))
          t).result = .ok report ∧
        (promptGate.resolved {} true (.ofValue (.list [unprompted temperature]))
          (.ofValue (.list []))).answer "openai" = some promptSchema ∧
        Accounts promptGate {} (unpromptedSnapshot temperature)
          (promptGate.resolved {} true (.ofValue (.list [unprompted temperature]))
            (.ofValue (.list []))) report fields credentials := by
  have hother : (unpromptedNode temperature).kind ≠ switchKind :=
    (by decide : Text.ofString "openai" ≠ switchKind)
  have hfields : (unpromptedNode temperature).JudgeableFields promptGate.schemas := by
    intro _ schema hschema spec hspec hblank
    obtain rfl : promptSchema = schema := Option.some.inj hschema
    obtain rfl := List.mem_singleton.mp hspec
    cases hblank
  obtain ⟨report, hreport⟩ := promptGate.exists_report_of_judgeable (o := {}) rfl rfl
    Gate.usable_default rfl true hs
    (Snapshot.judgeable_of_single rfl hfields (fun hkind => absurd hkind hother)
      ⟨trivial, fun _ => ⟨trivial, fun _ => trivial⟩⟩ hestimate) t
  obtain ⟨fields, credentials, haccounts⟩ := exists_accounts rfl hs rfl hreport
  exact ⟨report, fields, credentials, hreport,
    haccounts.answer_eq rfl (mem_unpromptedSnapshot temperature) rfl, haccounts⟩

/-- A language model without a prompt is reported. -/
theorem blames_missing_unprompted :
    ∃ report, (promptGate.validate {} true (.ofValue (.list [unprompted (.int 1)]))
        (.ofValue (.list [])) { deliver := fun _ => .silence }).result = .ok report ∧
      ∃ f ∈ report.errors, f.Blames "A" "prompt" := by
  obtain ⟨report, -, -, hreport, hschema, -⟩ := exists_report_unprompted (.int 1) rfl
    (by decide +kernel) { deliver := fun _ => .silence }
  have hfits : ((unpromptedNode (.int 1)).get "temperature").FitsFloat :=
    (by decide +kernel : (1 : Int).natAbs + 2 ^ 970 < 2 ^ 1024)
  have hspec : ({ id := "prompt", required := true } : FieldSpec) ∈ promptSchema.requiredFields :=
    List.mem_singleton_self _
  have hmain := blames_missing rfl rfl rfl rfl hreport (mem_unpromptedSnapshot (.int 1)) hschema
    hspec rfl
  exact ⟨report, hreport, hmain.1 fun hunjudged => hunjudged.2.temperature hfits⟩

/-- **A language model without a prompt gets a report without an error on it**, though its schema
requires one, where its temperature is a whole number that no float can hold. -/
theorem not_blames_overheated :
    ∃ report, (promptGate.validate {} true
        (.ofValue (.list [unprompted (.int (Nat.pow 10 400))])) (.ofValue (.list []))
        { deliver := fun _ => .silence }).result = .ok report ∧
      (promptGate.resolved {} true (.ofValue (.list [unprompted (.int (Nat.pow 10 400))]))
        (.ofValue (.list []))).answer "openai" = some promptSchema ∧
      ∀ f ∈ report.errors, ¬ f.Blames "A" "prompt" := by
  obtain ⟨report, fields, credentials, hreport, hschema, haccounts⟩ :=
    exists_report_unprompted (.int (Nat.pow 10 400)) rfl (by decide +kernel)
      { deliver := fun _ => .silence }
  have hconsistent : (unpromptedSnapshot (.int (Nat.pow 10 400))).Consistent :=
    Snapshot.consistent_ofReadings _ _
  have htooLarge : ¬ (Value.int (Nat.pow 10 400)).FitsFloat :=
    Nat.not_lt.mpr (by decide +kernel)
  have hunjudged : (unpromptedNode (.int (Nat.pow 10 400))).PromptUnjudged promptSchema := by
    refine ⟨by decide, htooLarge, fun spec hspec _ => ?_⟩
    obtain rfl := List.mem_singleton.mp hspec
    rfl
  exact ⟨report, hreport, hschema, not_blames_of_unjudged rfl rfl rfl hconsistent haccounts
    (mem_unpromptedSnapshot _) hschema rfl hunjudged⟩

end Gate

end WorkflowGate
