/-
# Which check reports what

The vocabulary of findings is split among the checks: every code that a run reports on a canvas belongs
to one check, and no other check uses it.  So what a report says under a code is what one check has
found, and can be read off its list alone.  Codes that belong to no check are those of input that is no
canvas, of canvases without nodes, and of back ends.

* `Code.check?`: the check to which a code belongs;
* `Gate.Finds.reportedBy_of_mem`: **every check reports under its own codes**, given the built-in
  refinements;
* `Check.filter_flatMap_all`: so the findings under codes of a check are found in its list, in order;
* `Report.coded_ofFindings`, `Report.perm_all_ofFindings`: what of that a report shows;
* `Report.without_ofFindings`, `Snapshot.leaveOut_advice`: what is left of findings without some codes.
-/
import WorkflowGate.Proofs.Check.Missing
import WorkflowGate.Proofs.Checks
import WorkflowGate.Proofs.Graph.Ledger

namespace WorkflowGate

open Result

/-- The check to which a code belongs.  A missing credential is not among the findings on fields. -/
def Code.check? : Code → Option Check
  | .malformedNode | .malformedEdge | .duplicateNodeId | .duplicateEdgeId | .missingNodeKind
  | .unknownEdgeSource | .unknownEdgeTarget => some .input
  | .noTrigger | .multipleTriggers => some .triggers
  | .cycleDetected | .nodeInCycle => some .cycles
  | .orphanNode | .unreachableNode | .conditionallyReachable => some .connections
  | .invalidNodeSchema | .missingRequiredField | .invalidJson | .invalidUrl | .invalidNumber
  | .invalidTemperature | .missingPrompt | .missingBody | .missingCode | .missingCron
  | .missingWorkflowId | .refinementFailed => some .fields
  | .missingCredential => some .credentials
  | .missingCondition | .noConditionalOutputs | .noElsePath | .insufficientCases | .noDefaultCase =>
    some .branches
  | .invalidTimeout | .timeoutExceedsLimit => some .timeouts
  | .complexWorkflow | .manyLlmNodes | .manySubworkflows | .longExecutionTime => some .complexity
  | .invalidSourceHandle | .invalidTargetHandle => some .handles
  | .invalidGraphInput | .emptyWorkflow => none
  | .backendValidationUnavailable | .subworkflowCycle | .typeMismatch | .credentialNotOwned
  | .maxNestingExceeded | .remoteFinding => none

/-- A finding is reported by the check. -/
def Finding.ReportedBy (f : Finding) (check : Check) : Prop := f.code.check? = some check

/-- A finding that stands alone is reported under its own code. -/
theorem Finding.reportedBy_of_mem_singleton {f g : Finding} {check : Check} (hf : f ∈ [g])
    (hg : g.ReportedBy check) : f.ReportedBy check := by
  rw [List.mem_singleton.mp hf]
  exact hg

/-- So is one that is reported on a condition. -/
theorem Finding.reportedBy_of_mem_onlyIf {condition : Bool} {f g : Finding} {check : Check}
    (hf : f ∈ onlyIf condition g) (hg : g.ReportedBy check) : f.ReportedBy check := by
  rw [((mem_onlyIf _ _ _).mp hf).2]
  exact hg

/-! ## 1. Input, triggers, cycles and connections -/

namespace Snapshot

theorem NodeFate.check?_of_mem_codes {fate : NodeFate} {c : Code} (h : c ∈ fate.codes) :
    c.check? = some .input := by
  cases fate with
  | accepted n =>
    rw [codes] at h
    split at h
    · rw [List.mem_singleton.mp h]
      rfl
    · cases h
  | malformed _ | duplicate _ =>
    rw [List.mem_singleton.mp h]
    rfl

theorem EdgeFate.check?_of_mem_codes {fate : EdgeFate} {c : Code} (h : c ∈ fate.codes) :
    c.check? = some .input := by
  have hmissing {condition : Bool} {code : Code} (hcode : code.check? = some .input)
      (h : c ∈ if condition then [code] else []) : c.check? = some .input := by
    split at h
    · rw [List.mem_singleton.mp h]
      exact hcode
    · cases h
  cases fate with
  | accepted _ => cases h
  | malformed | duplicate _ =>
    rw [List.mem_singleton.mp h]
    rfl
  | dangling _ _ _ =>
    rcases List.mem_append.mp h with h | h
    · exact hmissing rfl h
    · exact hmissing rfl h

variable (s : Snapshot) {f : Finding}

/-- What reading the input reports. -/
theorem reportedBy_of_mem_findings {nodes : Batch Node} {edges : Batch Edge} {s : Snapshot}
    (hs : ofBatches nodes edges = .ok s) (hf : f ∈ s.findings) : f.ReportedBy .input := by
  obtain ⟨-, -, nodeReadings, edgeReadings, -, -, rfl⟩ := ofBatches_eq_ok_iff.mp hs
  have hcode : f.code ∈ (ofReadings nodeReadings edgeReadings).findings.map Finding.code :=
    List.mem_map_of_mem hf
  rw [(balanced_ofReadings nodeReadings edgeReadings).codes] at hcode
  rcases List.mem_append.mp hcode with hcode | hcode
  · obtain ⟨fate, -, hcode⟩ := List.mem_flatMap.mp hcode
    exact NodeFate.check?_of_mem_codes hcode
  · obtain ⟨fate, -, hcode⟩ := List.mem_flatMap.mp hcode
    exact EdgeFate.check?_of_mem_codes hcode

theorem reportedBy_of_mem_triggerAdvice {triggers : List Text} (hf : f ∈ s.triggerAdvice triggers) :
    f.ReportedBy .triggers := by
  simp only [triggerAdvice] at hf
  split at hf
  · exact Finding.reportedBy_of_mem_singleton hf rfl
  · split at hf
    · exact Finding.reportedBy_of_mem_singleton hf rfl
    · cases hf

/-- The codes under which the search for cycles reports. -/
def cycleCodes : List Code := [.cycleDetected, .nodeInCycle]

theorem code_mem_of_mem_cycleFindings {report : CycleReport} (hf : f ∈ s.cycleFindings report) :
    f.code ∈ cycleCodes := by
  rw [cycleFindings] at hf
  split at hf
  · cases hf
  · split at hf
    · cases hf
    · rcases List.mem_cons.mp hf with rfl | hf
      · exact List.mem_cons_self
      · obtain ⟨id, -, rfl⟩ := List.mem_map.mp hf
        exact List.mem_cons_of_mem _ List.mem_cons_self

theorem reportedBy_of_mem_cycleFindings {report : CycleReport} (hf : f ∈ s.cycleFindings report) :
    f.ReportedBy .cycles := by
  have hcodes : ∀ code ∈ cycleCodes, code.check? = some .cycles := by decide
  exact hcodes f.code (s.code_mem_of_mem_cycleFindings hf)

theorem reportedBy_of_mem_reachabilityFindings {report : Reachability} {orphans : List Text}
    (hf : f ∈ s.reachabilityFindings report orphans) : f.ReportedBy .connections := by
  simp only [reachabilityFindings] at hf
  split at hf
  · cases hf
  · rcases List.mem_append.mp hf with hf | hf
    · obtain ⟨id, -, rfl⟩ := List.mem_map.mp hf
      rfl
    · obtain ⟨id, -, rfl⟩ := List.mem_map.mp hf
      rfl

theorem reportedBy_of_mem_orphanFindings {orphans : List Text} (hf : f ∈ s.orphanFindings orphans) :
    f.ReportedBy .connections := by
  obtain ⟨id, -, rfl⟩ := List.mem_map.mp hf
  rfl

end Snapshot

/-! ## 2. Fields and credentials -/

namespace Refinement

theorem reportedBy_of_mem_requireField {code : Code} {what rest : String} {field : Text} {n : Node}
    {f : Finding} {check : Check} (hf : f ∈ requireField code what rest field n)
    (hcode : code.check? = some check) : f.ReportedBy check :=
  Finding.reportedBy_of_mem_onlyIf hf hcode

/-- The codes of the built-in refinements, their failures included. -/
def codes : List Code :=
  [.missingPrompt, .invalidTemperature, .missingBody, .missingCode, .missingCron,
    .missingWorkflowId, .refinementFailed]

theorem code_mem_of_mem_onlyIf {condition : Bool} {f g : Finding} (hf : f ∈ Finding.onlyIf condition g)
    (hg : g.code ∈ codes) : f.code ∈ codes := by
  rw [((Finding.mem_onlyIf _ _ _).mp hf).2]
  exact hg

theorem code_mem_of_mem_languageModel {n : Node} {schema : Option KindSchema}
    {found : List Finding} (h : languageModel.check n schema = .ok found) {f : Finding}
    (hf : f ∈ found) : f.code ∈ codes := by
  simp only [languageModel] at h
  cases hnumber : (n.get "temperature").asNumber with
  | error fault =>
    rw [hnumber] at h
    cases h
  | ok t =>
    rw [hnumber] at h
    cases h
    rcases List.mem_append.mp hf with hf | hf
    · exact code_mem_of_mem_onlyIf hf (by decide : Code.missingPrompt ∈ codes)
    · cases t with
      | none => cases hf
      | some x => exact code_mem_of_mem_onlyIf hf (by decide : Code.invalidTemperature ∈ codes)

theorem code_mem_of_mem_httpRequest {n : Node} {schema : Option KindSchema} {found : List Finding}
    (h : httpRequest.check n schema = .ok found) {f : Finding} (hf : f ∈ found) :
    f.code ∈ codes := by
  simp only [httpRequest] at h
  split at h
  · cases h
    exact code_mem_of_mem_onlyIf hf (by decide : Code.missingBody ∈ codes)
  · cases h
    cases hf

/-- **What the built-in refinements report, they report under codes of their own.** -/
theorem code_mem_of_mem_said {kind : Text} {r : Refinement}
    (hr : r ∈ RefinementRegistry.builtin.forKind kind) {n : Node} {schema : Option KindSchema}
    {f : Finding} (hf : f ∈ r.said n schema) : f.code ∈ codes := by
  rcases mem_said hf with rfl | ⟨found, hcheck, hmem⟩
  · exact (by decide : Code.refinementFailed ∈ codes)
  rcases List.mem_append.mp (mem_builtinByKind_of_mem_forKind hr) with hllm | hother
  · obtain ⟨known, -, heq⟩ := List.mem_map.mp hllm
    obtain ⟨-, rfl⟩ := Prod.mk.inj heq
    exact code_mem_of_mem_languageModel hcheck hmem
  · simp only [List.mem_cons, Prod.mk.injEq, List.not_mem_nil, or_false] at hother
    rcases hother with ⟨-, rfl⟩ | ⟨-, rfl⟩ | ⟨-, rfl⟩ | ⟨-, rfl⟩
    · exact code_mem_of_mem_httpRequest hcheck hmem
    all_goals
      cases hcheck
    · exact code_mem_of_mem_onlyIf hmem (by decide : Code.missingCode ∈ codes)
    · exact code_mem_of_mem_onlyIf hmem (by decide : Code.missingCron ∈ codes)
    · exact code_mem_of_mem_onlyIf hmem (by decide : Code.missingWorkflowId ∈ codes)

/-- All of them are codes for fields. -/
theorem reportedBy_of_mem_said {kind : Text} {r : Refinement}
    (hr : r ∈ RefinementRegistry.builtin.forKind kind) {n : Node} {schema : Option KindSchema}
    {f : Finding} (hf : f ∈ r.said n schema) : f.ReportedBy .fields :=
  (by decide : ∀ c ∈ codes, c.check? = some .fields) _ (code_mem_of_mem_said hr hf)

end Refinement

namespace Node

variable {n : Node} {f : Finding}

/-- The codes for values that do not have the shape of their field. -/
def shapeCodes : List Code := [.invalidJson, .invalidUrl, .invalidNumber]

theorem code_mem_of_mem_shapeFinding {spec : FieldSpec} {said : List Finding}
    (h : n.shapeFinding spec = .ok said) (hf : f ∈ said) : f.code ∈ shapeCodes := by
  rw [shapeFinding] at h
  split at h
  · cases h
    cases hf
  unfold misshapen at h
  split at h
  · obtain ⟨broken, -, h⟩ := bind_eq_ok_iff.mp h
    cases h
    rw [((Finding.mem_onlyIf _ _ _).mp hf).2]
    exact (by decide : Code.invalidJson ∈ shapeCodes)
  · cases h
    rw [((Finding.mem_onlyIf _ _ _).mp hf).2]
    exact (by decide : Code.invalidUrl ∈ shapeCodes)
  · obtain ⟨number, -, h⟩ := bind_eq_ok_iff.mp h
    cases h
    rw [((Finding.mem_onlyIf _ _ _).mp hf).2]
    exact (by decide : Code.invalidNumber ∈ shapeCodes)
  · cases h
    cases hf

theorem reportedBy_of_mem_shapeFinding {spec : FieldSpec} {said : List Finding}
    (h : n.shapeFinding spec = .ok said) (hf : f ∈ said) : f.ReportedBy .fields :=
  (by decide : ∀ c ∈ shapeCodes, c.check? = some .fields) _ (code_mem_of_mem_shapeFinding h hf)

/-- What the schema of its kind and the built-in refinements make of a node. -/
theorem reportedBy_of_mem_findingsBy {schema : Option KindSchema} {rejected : Bool}
    {found : List Finding} (h : n.findingsBy .builtin schema rejected = .ok found) (hf : f ∈ found) :
    f.ReportedBy .fields := by
  rcases mem_findingsBy h hf with rfl | ⟨-, ⟨spec, hf⟩ | ⟨spec, said, hsaid, hf⟩⟩ | ⟨r, hr, hf⟩
  · rfl
  · exact Finding.reportedBy_of_mem_onlyIf hf rfl
  · exact reportedBy_of_mem_shapeFinding hsaid hf
  · exact Refinement.reportedBy_of_mem_said hr hf

theorem reportedBy_of_mem_missingCredentials {schema : KindSchema}
    (hf : f ∈ n.missingCredentials schema) : f.ReportedBy .credentials := by
  obtain ⟨spec, -, -, -, rfl⟩ := mem_missingCredentials_iff.mp hf
  rfl

theorem reportedBy_of_mem_timeoutFindings {limit : Value} {found : List Finding}
    (h : n.timeoutFindings limit = .ok found) (hf : f ∈ found) : f.ReportedBy .timeouts := by
  rw [timeoutFindings] at h
  obtain ⟨declared, -, h⟩ := bind_eq_ok_iff.mp h
  cases declared with
  | none =>
    cases h
    cases hf
  | some timeout =>
    simp only [timeoutError] at h
    split at h
    · cases h
      exact Finding.reportedBy_of_mem_singleton hf rfl
    · obtain ⟨exceeds, -, h⟩ := bind_eq_ok_iff.mp h
      split at h
      · obtain ⟨shown, -, h⟩ := bind_eq_ok_iff.mp h
        cases h
        exact Finding.reportedBy_of_mem_singleton hf rfl
      · cases h
        cases hf

end Node

/-! ## 3. Branches, complexity and handles -/

namespace Snapshot

variable (s : Snapshot) {f : Finding} {found : List Finding}

theorem reportedBy_of_mem_outcomeFindings {n : Node} {hasTrue hasFalse : Bool}
    (hf : f ∈ outcomeFindings n hasTrue hasFalse) : f.ReportedBy .branches := by
  unfold outcomeFindings at hf
  split at hf
  · exact Finding.reportedBy_of_mem_singleton hf rfl
  · exact Finding.reportedBy_of_mem_onlyIf hf rfl

theorem reportedBy_of_mem_branchFindingsOf {n : Node} (h : s.branchFindingsOf n = .ok found)
    (hf : f ∈ found) : f.ReportedBy .branches := by
  rw [branchFindingsOf] at h
  split at h
  · cases h
    rcases List.mem_append.mp hf with hf | hf
    · exact Refinement.reportedBy_of_mem_requireField hf rfl
    · exact reportedBy_of_mem_outcomeFindings hf
  · split at h
    · obtain ⟨count, -, h⟩ := bind_eq_ok_iff.mp h
      cases h
      rcases List.mem_append.mp hf with hf | hf
      · exact Finding.reportedBy_of_mem_onlyIf hf rfl
      · exact Finding.reportedBy_of_mem_onlyIf hf rfl
    · cases h
      cases hf

theorem reportedBy_of_mem_adviseCount {count : Nat} {threshold : Value} {code : Code}
    {message : Text} {check : Check} (h : adviseCount count threshold code message = .ok found)
    (hf : f ∈ found) (hcode : code.check? = some check) : f.ReportedBy check := by
  rw [eq_of_mem_adviseCount h hf]
  exact hcode

theorem reportedBy_of_mem_advice {categories : List KindCategory} {settings : Settings}
    {depth : Value} (h : s.advice categories settings depth = .ok found) (hf : f ∈ found) :
    f.ReportedBy .complexity := by
  have hcodes : ∀ code ∈ adviceCodes, code.check? = some .complexity := by decide
  obtain ⟨code, hcode, message, rfl⟩ := s.exists_eq_of_mem_advice h hf
  exact hcodes code hcode

theorem reportedBy_of_mem_handleFindingsBy {answer : Text → Option KindSchema} {e : Edge}
    (hf : f ∈ s.handleFindingsBy answer e) : f.ReportedBy .handles := by
  have hend {id : Text} {handle : Option Text} {declared : KindSchema → Option (List Text)}
      {code : Code} {edgeTo what : String} (hcode : code.check? = some .handles)
      (hf : f ∈ s.endFindingsBy answer id handle declared code edgeTo what) :
      f.ReportedBy .handles := by
    unfold endFindingsBy at hf
    split at hf
    · exact Finding.reportedBy_of_mem_onlyIf hf hcode
    · cases hf
  rcases List.mem_append.mp hf with hf | hf
  · exact hend rfl hf
  · exact hend rfl hf

end Snapshot

/-! ## 4. The run -/

namespace Gate

variable {g : Gate} {o : Options} {s : Snapshot} {final : Resolver} {found : Check → List Finding}

/-- **Each list comes from its check**, whatever schemas and categories the check goes by.  Of the list of
fields nothing is said, since what is in it is up to the refinements. -/
structure Attributes (g : Gate) (s : Snapshot) (found : Check → List Finding) : Prop where
  input : found .input = s.findings
  triggers : ∃ ids, found .triggers = s.triggerAdvice ids
  cycles : ∃ report, found .cycles = s.cycleFindings report
  connections : ∃ report orphans, found .connections =
    s.reachabilityFindings report orphans ++ s.orphanFindings orphans
  credentials : ∀ f ∈ found .credentials, ∃ n schema, f ∈ Node.missingCredentials n schema
  branches : s.branchFindings = .ok (found .branches)
  timeouts : s.timeoutFindings g.settings = .ok (found .timeouts)
  complexity : ∃ large advice categories depth, s.adviseSize g.settings = .ok large ∧
    s.advice categories g.settings depth = .ok advice ∧ found .complexity = large ++ advice
  handles : ∃ answer, found .handles = s.edges.flatMap (s.handleFindingsBy answer)

/-- Every check but that of fields reports under its own codes. -/
theorem Attributes.reportedBy_of_mem (h : g.Attributes s found) {nodes : Batch Node}
    {edges : Batch Edge} (hs : Snapshot.ofBatches nodes edges = .ok s) {check : Check}
    (hne : check ≠ .fields) {f : Finding} (hf : f ∈ found check) : f.ReportedBy check := by
  cases check with
  | input => exact Snapshot.reportedBy_of_mem_findings hs (h.input ▸ hf)
  | triggers =>
    obtain ⟨ids, htriggers⟩ := h.triggers
    exact s.reportedBy_of_mem_triggerAdvice (htriggers ▸ hf)
  | cycles =>
    obtain ⟨report, hcycles⟩ := h.cycles
    exact s.reportedBy_of_mem_cycleFindings (hcycles ▸ hf)
  | connections =>
    obtain ⟨report, orphans, hconnections⟩ := h.connections
    rw [hconnections] at hf
    rcases List.mem_append.mp hf with hf | hf
    · exact s.reportedBy_of_mem_reachabilityFindings hf
    · exact s.reportedBy_of_mem_orphanFindings hf
  | fields => exact absurd rfl hne
  | credentials =>
    obtain ⟨n, schema, hf⟩ := h.credentials f hf
    exact Node.reportedBy_of_mem_missingCredentials hf
  | branches =>
    obtain ⟨n, -, part, hpart, hf⟩ := exists_of_mem_flatten_mapM h.branches hf
    exact s.reportedBy_of_mem_branchFindingsOf hpart hf
  | timeouts =>
    obtain ⟨n, -, part, hpart, hf⟩ := exists_of_mem_flatten_mapM h.timeouts hf
    exact Node.reportedBy_of_mem_timeoutFindings hpart hf
  | complexity =>
    obtain ⟨large, advice, categories, depth, hlarge, hadvice, hcomplexity⟩ := h.complexity
    rw [hcomplexity] at hf
    rcases List.mem_append.mp hf with hf | hf
    · exact Snapshot.reportedBy_of_mem_adviseCount hlarge hf rfl
    · exact s.reportedBy_of_mem_advice hadvice hf
  | handles =>
    obtain ⟨answer, hhandles⟩ := h.handles
    rw [hhandles] at hf
    obtain ⟨e, -, hf⟩ := List.mem_flatMap.mp hf
    exact s.reportedBy_of_mem_handleFindingsBy hf

namespace Finds

/-- The lists of a run come from their checks. -/
theorem attributes (h : g.Finds o s final found) : g.Attributes s found where
  input := h.input
  triggers := ⟨_, h.triggers⟩
  cycles := by
    obtain ⟨report, -, hcycles⟩ := h.cycles
    exact ⟨report, hcycles⟩
  connections := by
    obtain ⟨report, -, hconnections⟩ := h.connections
    exact ⟨report, _, hconnections⟩
  credentials f hf := by
    cases ho : o.checkCredentials.truthy with
    | true =>
      obtain ⟨n, -, schema, -, hf⟩ := (h.credentials ho).only f hf
      exact ⟨n, schema, hf⟩
    | false =>
      rw [h.without_credentials ho] at hf
      cases hf
  branches := h.branches
  timeouts := h.timeouts
  complexity := by
    obtain ⟨large, advice, hlarge, hadvice, hcomplexity⟩ := h.complexity
    exact ⟨large, advice, _, _, hlarge, hadvice, hcomplexity⟩
  handles := ⟨_, h.handles⟩

/-- Every check but that of fields reports under its own codes, whatever the refinements are. -/
theorem reportedBy_of_mem_of_ne (h : g.Finds o s final found) {nodes : Batch Node}
    {edges : Batch Edge} (hs : Snapshot.ofBatches nodes edges = .ok s) {check : Check}
    (hne : check ≠ .fields) {f : Finding} (hf : f ∈ found check) : f.ReportedBy check :=
  h.attributes.reportedBy_of_mem hs hne hf

/-- **Every check reports under its own codes.** -/
theorem reportedBy_of_mem (h : g.Finds o s final found) {nodes : Batch Node} {edges : Batch Edge}
    (hs : Snapshot.ofBatches nodes edges = .ok s) (hrefinements : g.refinements = .builtin)
    {check : Check} {f : Finding} (hf : f ∈ found check) : f.ReportedBy check := by
  by_cases hcheck : check = .fields
  · subst hcheck
    obtain ⟨n, -, rejected, part, hpart, hf⟩ := h.fields.only f hf
    rw [hrefinements] at hpart
    exact Node.reportedBy_of_mem_findingsBy hpart hf
  · exact h.reportedBy_of_mem_of_ne hs hcheck hf

end Finds

end Gate

/-- Where each check reports under its own codes, what is found under codes of one check is in its list,
in order. -/
theorem Check.filter_flatMap_all {found : Check → List Finding}
    (hown : ∀ check, ∀ f ∈ found check, f.ReportedBy check) {p : Finding → Bool} {check : Check}
    (hp : ∀ f, p f = true → f.ReportedBy check) :
    (Check.all.flatMap found).filter p = (found check).filter p := by
  have hother (other : Check) (hne : other ≠ check) : (found other).filter p = [] := by
    refine List.filter_eq_nil_iff.mpr fun f hf hpf => hne ?_
    exact Option.some.inj ((hown other f hf).symm.trans (hp f hpf))
  rw [List.filter_flatMap]
  cases check <;> simp [all, hother]

/-! ## 5. Reports -/

namespace Report

/-- The findings under a code. -/
def coded (r : Report) (code : Code) : List Finding := r.all.filter fun f => f.code = code

/-- A report has every finding once. -/
theorem perm_all_ofFindings (fs : List Finding) : (ofFindings fs).all.Perm fs := by
  rw [all, List.append_assoc]
  simp only [ofFindings]
  induction fs with
  | nil => exact .nil
  | cons f rest ih =>
    cases hseverity : f.severity with
    | error =>
      simp only [select, List.filter_cons, hseverity] at ih ⊢
      exact ih.cons f
    | warning =>
      simp only [select, List.filter_cons, hseverity] at ih ⊢
      exact List.perm_middle.trans (ih.cons f)
    | info =>
      simp only [select, List.filter_cons, hseverity] at ih ⊢
      exact ((List.perm_middle.append_left _).trans List.perm_middle).trans (ih.cons f)

/-- Where findings under a code have one severity they stand in the report as they were found. -/
theorem coded_ofFindings {fs : List Finding} {code : Code} (severity : Severity)
    (h : ∀ f ∈ fs, f.code = code → f.severity = severity) :
    (ofFindings fs).coded code = fs.filter fun f => f.code = code := by
  have hselect (s : Severity) : (select s fs).filter (fun f => f.code = code) =
      if s = severity then fs.filter fun f => f.code = code else [] := by
    rw [select, List.filter_filter]
    split
    next heq =>
      refine List.filter_congr fun f hf => ?_
      by_cases hcode : f.code = code <;> simp [hcode, heq]
      exact h f hf hcode
    next hne =>
      refine List.filter_eq_nil_iff.mpr fun f hf hboth => ?_
      simp only [Bool.and_eq_true, decide_eq_true_eq] at hboth
      exact hne (hboth.2.symm.trans (h f hf hboth.1))
  rw [coded, all, List.filter_append, List.filter_append]
  simp only [ofFindings, hselect]
  cases severity <;> simp

/-- Findings under a code that come behind others without it are shown as if they stood alone. -/
theorem coded_ofFindings_append {fs : List Finding} {code : Code} (h : ∀ f ∈ fs, f.code ≠ code)
    (gs : List Finding) : (ofFindings (fs ++ gs)).coded code = (ofFindings gs).coded code := by
  have hnone (s : Severity) : (select s fs).filter (fun f => f.code = code) = [] := by
    refine List.filter_eq_nil_iff.mpr fun f hf hcode => ?_
    exact h f (List.mem_filter.mp hf).1 (of_decide_eq_true hcode)
  have hselect (s : Severity) : (select s (fs ++ gs)).filter (fun f => f.code = code) =
      (select s gs).filter fun f => f.code = code := by
    rw [select, List.filter_append, List.filter_append, ← select, hnone, List.nil_append, ← select]
  simp only [coded, all, ofFindings, List.filter_append, hselect]

end Report

variable {found : Check → List Finding}

/-- Where each check reports under its own codes, a report shows what was found under a code as its
check has found it, if it always has one severity. -/
theorem Check.coded_ofFindings (hown : ∀ check, ∀ f ∈ found check, f.ReportedBy check) {code : Code}
    {check : Check} (hcode : code.check? = some check) (severity : Severity)
    (hseverity : ∀ f ∈ found check, f.code = code → f.severity = severity) :
    (Report.ofFindings (all.flatMap found)).coded code =
      (found check).filter fun f => f.code = code := by
  have hreported (f : Finding) (hf : f.code = code) : f.ReportedBy check := by
    rw [Finding.ReportedBy, hf, hcode]
  have hfound : ∀ f ∈ all.flatMap found, f.code = code → f.severity = severity := by
    intro f hf hc
    obtain ⟨other, -, hf⟩ := List.mem_flatMap.mp hf
    obtain rfl : other = check :=
      Option.some.inj ((hown other f hf).symm.trans (hreported f hc))
    exact hseverity f hf hc
  rw [Report.coded_ofFindings severity hfound]
  exact filter_flatMap_all hown fun f hf => hreported f (of_decide_eq_true hf)

/-- What a report shows of findings of one check is what that check has found, up to their order. -/
theorem Check.perm_filter_all_ofFindings (hown : ∀ check, ∀ f ∈ found check, f.ReportedBy check)
    {p : Finding → Bool} {check : Check} (hp : ∀ f, p f = true → f.ReportedBy check) :
    ((Report.ofFindings (all.flatMap found)).all.filter p).Perm ((found check).filter p) := by
  rw [← filter_flatMap_all hown hp]
  exact (Report.perm_all_ofFindings _).filter p

/-! ## 6. What stays when codes are left out -/

namespace Report

/-- Findings without those under some codes. -/
def leaveOut (codes : List Code) (fs : List Finding) : List Finding :=
  fs.filter fun f => f.code ∉ codes

/-- The report without the findings under some codes. -/
def without (r : Report) (codes : List Code) : Report :=
  ⟨leaveOut codes r.errors, leaveOut codes r.warnings, leaveOut codes r.infos⟩

theorem without_ofFindings (codes : List Code) (fs : List Finding) :
    (ofFindings fs).without codes = ofFindings (leaveOut codes fs) := by
  have hselect (severity : Severity) :
      leaveOut codes (select severity fs) = select severity (leaveOut codes fs) := by
    rw [leaveOut, select, select, leaveOut, List.filter_comm]
  simp only [without, ofFindings, hselect]

theorem leaveOut_append (codes : List Code) (fs gs : List Finding) :
    leaveOut codes (fs ++ gs) = leaveOut codes fs ++ leaveOut codes gs :=
  List.filter_append fs gs

theorem leaveOut_eq_nil {codes : List Code} {fs : List Finding} (h : ∀ f ∈ fs, f.code ∈ codes) :
    leaveOut codes fs = [] := by
  refine List.filter_eq_nil_iff.mpr fun f hf hkept => ?_
  exact of_decide_eq_true hkept (h f hf)

end Report

/-- **Advice on two canvases is alike but for the codes that are left out**, if what is counted under the
others is. -/
theorem Snapshot.leaveOut_advice {s s' : Snapshot} {settings : Settings} {depth depth' : Value}
    {categories categories' : List KindCategory} {codes : List Code} {found found' : List Finding}
    (h : s.advice categories settings depth = .ok found)
    (h' : s'.advice categories' settings depth' = .ok found')
    (hllms : categories.count .llm = categories'.count .llm)
    (hsubworkflows : .manySubworkflows ∉ codes →
      categories.count .subworkflow = categories'.count .subworkflow ∧ depth = depth')
    (hruntime : .longExecutionTime ∉ codes → s.adviseRuntime settings = s'.adviseRuntime settings) :
    Report.leaveOut codes found = Report.leaveOut codes found' := by
  obtain ⟨llms, hadvice, h⟩ := bind_eq_ok_iff.mp h
  obtain ⟨subworkflows, hmany, h⟩ := bind_eq_ok_iff.mp h
  obtain ⟨runtime, hlong, h⟩ := bind_eq_ok_iff.mp h
  cases h
  obtain ⟨llms', hadvice', h'⟩ := bind_eq_ok_iff.mp h'
  obtain ⟨subworkflows', hmany', h'⟩ := bind_eq_ok_iff.mp h'
  obtain ⟨runtime', hlong', h'⟩ := bind_eq_ok_iff.mp h'
  cases h'
  have hsame : Report.leaveOut codes subworkflows = Report.leaveOut codes subworkflows' := by
    by_cases hcode : Code.manySubworkflows ∈ codes
    · rw [Report.leaveOut_eq_nil fun f hf => eq_of_mem_adviseCount hmany hf ▸ hcode,
        Report.leaveOut_eq_nil fun f hf => eq_of_mem_adviseCount hmany' hf ▸ hcode]
    · obtain ⟨hcount, rfl⟩ := hsubworkflows hcode
      rw [← hcount] at hmany'
      rw [Except.ok.inj (hmany.symm.trans hmany')]
  have hslow : Report.leaveOut codes runtime = Report.leaveOut codes runtime' := by
    by_cases hcode : Code.longExecutionTime ∈ codes
    · have hgone (s : Snapshot) {found : List Finding} (h : s.adviseRuntime settings = .ok found) :
          Report.leaveOut codes found = [] := by
        refine Report.leaveOut_eq_nil fun f hf => ?_
        obtain ⟨message, rfl⟩ := s.exists_eq_of_mem_adviseRuntime h hf
        exact hcode
      rw [hgone s hlong, hgone s' hlong']
    · rw [← hruntime hcode] at hlong'
      rw [Except.ok.inj (hlong.symm.trans hlong')]
  rw [← hllms] at hadvice'
  rw [Report.leaveOut_append, Report.leaveOut_append, Report.leaveOut_append, Report.leaveOut_append,
    Except.ok.inj (hadvice.symm.trans hadvice'), hsame, hslow]

end WorkflowGate
