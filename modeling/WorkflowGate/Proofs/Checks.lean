/-
# What the checks of a run find

Whatever the registry and the lookup are, what the checks of a run have found can be told from the
resolver that the run leaves: each goes by the snapshot and by what its kinds are resolved to in the
end.  `Gate.Finds` says so, check by check.

* `yields_findTriggers`, `yields_findOrphans`, `yields_analyzeReachability`: the three ways in which
  nodes are sorted out, by the categories of their kinds;
* `yields_fieldFindings`, `yields_credentialFindings`, `yields_handleFindings`: the checks that look at
  schemas;
* `Gate.yields_localFindings`: **what a run finds by itself is what its checks find**, in order;
* `Gate.exists_finds`: so is the report on a canvas, but for what a back end adds.
-/
import WorkflowGate.Proofs.Gate
import WorkflowGate.Proofs.Graph.Reached
import WorkflowGate.Proofs.Hindsight
import WorkflowGate.Proofs.Intake

namespace WorkflowGate

open Result Run

variable {final : Resolver}

/-! ## 1. Triggers, reachability and orphans -/

namespace Snapshot

variable (s : Snapshot)

theorem yields_findTriggers :
    Yields final s.findTriggers fun ids => ids = s.nodesOf final.category .trigger := by
  refine (Yields.filterM (fun n : Node => yields_isTrigger n.kind) s.nodeList).map.mono ?_
  rintro _ ⟨_, rfl, rfl⟩
  rfl

theorem yields_findBranching :
    Yields final s.findBranching fun ids => ids = s.nodesOf final.category .controlFlow := by
  refine (Yields.filterM (fun n : Node => yields_isBranching n.kind) s.nodeList).map.mono ?_
  rintro _ ⟨_, rfl, rfl⟩
  rfl

/-- Is the node an orphan, by the categories of the kinds? -/
def isOrphan (categoryOf : Text → KindCategory) (n : Node) : Bool :=
  !s.isConnected n.id && (!decide (categoryOf n.kind = .trigger) && n.parentId.isNone)

/-- The orphans, by the categories of the kinds. -/
def orphansOf (categoryOf : Text → KindCategory) : List Text :=
  (s.nodeList.filter (s.isOrphan categoryOf)).map Node.id

theorem yields_findOrphans :
    Yields final s.findOrphans fun ids => ids = s.orphansOf final.category := by
  refine (Yields.filterM (fun n => ?_ : ∀ n : Node,
    Yields final _ fun b => b = s.isOrphan final.category n) s.nodeList).map.mono ?_
  · cases hconnected : s.isConnected n.id with
    | true => exact yields_pure (by simp [isOrphan, hconnected])
    | false =>
      refine ((yields_isTrigger n.kind).bind fun b =>
        yields_pure (p := fun kept => kept = (!b && n.parentId.isNone)) rfl).mono ?_
      rintro _ ⟨_, rfl, rfl⟩
      simp [isOrphan, hconnected]
  · rintro _ ⟨_, rfl, rfl⟩
    rfl

/-- The nodes are sorted by the categories of the kinds. -/
theorem yields_analyzeReachability :
    Yields final s.analyzeReachability fun report =>
      s.classify (s.nodesOf final.category .trigger) (s.nodesOf final.category .controlFlow) =
        .ok report := by
  refine (s.yields_findTriggers.bind (q := fun triggers report =>
    s.classify triggers (s.nodesOf final.category .controlFlow) = .ok report)
      fun triggers => ?_).mono ?_
  · split
    next hnone =>
      rw [List.isEmpty_iff.mp hnone]
      simp only [classify_without_triggers]
      exact yields_lift fun _ h => h
    next hsome =>
      refine (s.yields_findBranching.bind fun branching =>
        (yields_lift (p := fun report => s.classify triggers branching = .ok report)
          fun _ h => h).bind fun report => (yields_record _).bind fun _ =>
            yields_pure (p := fun r => r = report) rfl).mono ?_
      rintro _ ⟨_, rfl, report, hreport, _, -, rfl⟩
      exact hreport
  · rintro report ⟨_, rfl, hreport⟩
    exact hreport

end Snapshot

/-! ## 2. Fields and credentials -/

/-- What refinements say is known beforehand, if the log can tell of their failures. -/
theorem Node.yields_refinementFindings (n : Node) (refinements : RefinementRegistry)
    (schema : Option KindSchema) :
    Yields final (n.refinementFindings refinements schema) fun said =>
      refinements.tell n schema = .ok () ∧ said = refinements.said n schema := by
  intro st said st' hrun
  obtain ⟨records, hsaid⟩ := n.execute_refinementFindings refinements schema st
  obtain ⟨hresult, rfl⟩ := Prod.mk.inj (hsaid.symm.trans hrun)
  obtain ⟨_, htell, rfl⟩ := map_eq_ok_iff.mp hresult
  exact ⟨.refl _, fun _ => ⟨htell, rfl⟩⟩

/-- The findings on the fields of a node go by what its kind is resolved to at the end. -/
theorem Node.yields_fieldFindings (n : Node) (refinements : RefinementRegistry) :
    Yields final (n.fieldFindings refinements) fun found =>
      final.Settled n.kind ∧
        ∃ rejected, n.findingsBy refinements (final.answer n.kind) rejected = .ok found := by
  refine ((yields_resolve n.kind).bind (q := fun schema found =>
    ∃ rejected, n.findingsBy refinements schema rejected = .ok found) fun schema => ?_).mono ?_
  · refine (yields_rejectedKinds.bind (q := fun rejected found =>
      n.findingsBy refinements schema (rejected.contains n.kind) = .ok found)
        fun rejected => ?_).mono ?_
    · cases schema with
      | none =>
        refine ((yields_pure (p := fun g => g = []) rfl).bind fun general =>
          (n.yields_refinementFindings refinements none).bind fun said =>
            yields_pure (p := fun found => found =
              Finding.onlyIf (rejected.contains n.kind) n.unreadableSchema ++ general ++ said)
                rfl).mono ?_
        rintro found ⟨_, rfl, _, ⟨htell, rfl⟩, rfl⟩
        exact bind_eq_ok_iff.mpr ⟨[], rfl, bind_eq_ok_iff.mpr ⟨(), htell, rfl⟩⟩
      | some known =>
        refine ((yields_lift (p := fun g =>
            n.schemaFindings (refinements.ownedFields n.kind) known = .ok g) fun _ h => h).bind
          fun general => (n.yields_refinementFindings refinements (some known)).bind fun said =>
            yields_pure (p := fun found => found = general ++ said) rfl).mono ?_
        rintro found ⟨general, hgeneral, _, ⟨htell, rfl⟩, rfl⟩
        exact bind_eq_ok_iff.mpr ⟨general, hgeneral, bind_eq_ok_iff.mpr ⟨(), htell, rfl⟩⟩
    · rintro found ⟨rejected, -, hfound⟩
      exact ⟨rejected.contains n.kind, hfound⟩
  · rintro found ⟨schema, ⟨rfl, hsettled⟩, hfound⟩
    exact ⟨hsettled, hfound⟩

namespace Snapshot

variable (s : Snapshot)

/-- **What the check of fields finds**: what the schema of its kind makes of every node that has
one. -/
structure FieldsFound (final : Resolver) (refinements : RefinementRegistry) (all : List Finding) :
    Prop where
  every : ∀ n ∈ s.nodeList, n.kind.isEmpty = false → final.Settled n.kind ∧ ∃ rejected found,
    n.findingsBy refinements (final.answer n.kind) rejected = .ok found ∧ ∀ f ∈ found, f ∈ all
  only : ∀ f ∈ all, ∃ n ∈ s.nodeList, ∃ rejected found,
    n.findingsBy refinements (final.answer n.kind) rejected = .ok found ∧ f ∈ found

/-- **What the check of credentials finds**: the missing credentials of every node. -/
structure CredentialsFound (final : Resolver) (all : List Finding) : Prop where
  every : ∀ n ∈ s.nodeList, ∀ schema, final.answer n.kind = some schema →
    ∀ f ∈ n.missingCredentials schema, f ∈ all
  only : ∀ f ∈ all, ∃ n ∈ s.nodeList, ∃ schema, final.answer n.kind = some schema ∧
    f ∈ n.missingCredentials schema

theorem yields_fieldFindings (refinements : RefinementRegistry) :
    Yields final (s.fieldFindings refinements) (s.FieldsFound final refinements) := by
  have hone (n : Node) : Yields final
      (if n.kind.isEmpty then pure [] else n.fieldFindings refinements) fun found =>
        (n.kind.isEmpty = true ∧ found = []) ∨ n.kind.isEmpty = false ∧ final.Settled n.kind ∧
          ∃ rejected, n.findingsBy refinements (final.answer n.kind) rejected = .ok found := by
    cases hkind : n.kind.isEmpty with
    | true => exact yields_pure (.inl ⟨rfl, rfl⟩)
    | false => exact (n.yields_fieldFindings refinements).mono fun found h => .inr ⟨rfl, h⟩
  refine (Yields.flatMapM hone s.nodeList).mono ?_
  rintro all ⟨hevery, honly⟩
  constructor
  · intro n hn hkind
    obtain ⟨found, ⟨hempty, -⟩ | ⟨-, hsettled, rejected, hfound⟩, hall⟩ := hevery n hn
    · rw [hkind] at hempty
      cases hempty
    · exact ⟨hsettled, rejected, found, hfound, hall⟩
  · intro f hf
    obtain ⟨n, hn, found, ⟨-, rfl⟩ | ⟨-, -, rejected, hfound⟩, hf⟩ := honly f hf
    · cases hf
    · exact ⟨n, hn, rejected, found, hfound, hf⟩

theorem yields_credentialFindings :
    Yields final s.credentialFindings (s.CredentialsFound final) := by
  refine (Yields.flatMapM (p := fun n found =>
    found = ((final.answer n.kind).map n.missingCredentials).getD []) (fun n => ?_) s.nodeList).mono ?_
  · refine ((yields_resolve n.kind).bind (q := fun schema found =>
      found = (schema.map n.missingCredentials).getD []) fun schema => ?_).mono ?_
    · cases schema <;> exact yields_pure rfl
    · rintro found ⟨schema, ⟨rfl, -⟩, hfound⟩
      exact hfound
  rintro all ⟨hevery, honly⟩
  constructor
  · intro n hn schema hschema f hf
    obtain ⟨found, rfl, hall⟩ := hevery n hn
    rw [hschema] at hall
    exact hall f hf
  · intro f hf
    obtain ⟨n, hn, found, rfl, hf⟩ := honly f hf
    cases hschema : final.answer n.kind with
    | none =>
      rw [hschema] at hf
      cases hf
    | some schema =>
      rw [hschema] at hf
      exact ⟨n, hn, schema, hschema, hf⟩

end Snapshot

/-! ## 3. Complexity and handles -/

namespace Snapshot

variable (s : Snapshot)

/-- The advice on a workflow goes by the categories of the kinds. -/
theorem yields_complexityFindings (settings : Settings) (depth : Value) :
    Yields final (s.complexityFindings settings depth) fun found =>
      ∃ large advice, s.adviseSize settings = .ok large ∧
        s.advice (s.nodeList.map fun n => final.category n.kind) settings depth = .ok advice ∧
          found = large ++ advice := by
  refine ((yields_lift (p := fun large => s.adviseSize settings = .ok large) fun _ h => h).bind
    fun large => (Yields.mapM_eq (fun n : Node => yields_categoryOf n.kind) s.nodeList).bind
      fun categories => (yields_lift (p := fun advice =>
          s.advice categories settings depth = .ok advice) fun _ h => h).bind
        fun advice => yields_pure (p := fun found => found = large ++ advice) rfl).mono ?_
  rintro _ ⟨large, hlarge, _, rfl, advice, hadvice, rfl⟩
  exact ⟨large, advice, hlarge, hadvice, rfl⟩

theorem eq_of_mem_adviseCount {count : Nat} {threshold : Value} {code : Code} {message : Text}
    {found : List Finding} (h : adviseCount count threshold code message = .ok found) {f : Finding}
    (hf : f ∈ found) : f = .warning code message := by
  obtain ⟨exceeds, -, h⟩ := bind_eq_ok_iff.mp h
  cases h
  exact ((Finding.mem_onlyIf _ _ _).mp hf).2

theorem exists_eq_of_mem_adviseRuntime {settings : Settings} {found : List Finding}
    (h : s.adviseRuntime settings = .ok found) {f : Finding} (hf : f ∈ found) :
    ∃ message, f = .warning .longExecutionTime message := by
  obtain ⟨total, -, h⟩ := bind_eq_ok_iff.mp h
  obtain ⟨exceeds, -, h⟩ := bind_eq_ok_iff.mp h
  split at h
  · split at h
    · cases h
      exact ⟨_, List.mem_singleton.mp hf⟩
    · cases h
  · cases h
    cases hf

/-- The codes under which advice is given, given the categories of the nodes. -/
def adviceCodes : List Code := [.manyLlmNodes, .manySubworkflows, .longExecutionTime]

/-- Advice only warns, under its own codes. -/
theorem exists_eq_of_mem_advice {categories : List KindCategory} {settings : Settings} {depth : Value}
    {found : List Finding} (h : s.advice categories settings depth = .ok found) {f : Finding}
    (hf : f ∈ found) : ∃ code ∈ adviceCodes, ∃ message, f = .warning code message := by
  obtain ⟨llms, hllms, h⟩ := bind_eq_ok_iff.mp h
  obtain ⟨subworkflows, hsubworkflows, h⟩ := bind_eq_ok_iff.mp h
  obtain ⟨runtime, hruntime, h⟩ := bind_eq_ok_iff.mp h
  cases h
  simp only [List.mem_append] at hf
  rcases hf with (hf | hf) | hf
  · exact ⟨.manyLlmNodes, by decide, _, eq_of_mem_adviseCount hllms hf⟩
  · exact ⟨.manySubworkflows, by decide, _, eq_of_mem_adviseCount hsubworkflows hf⟩
  · exact ⟨.longExecutionTime, by decide, s.exists_eq_of_mem_adviseRuntime hruntime hf⟩

theorem severity_of_mem_advice {categories : List KindCategory} {settings : Settings} {depth : Value}
    {found : List Finding} (h : s.advice categories settings depth = .ok found) :
    ∀ f ∈ found, f.severity = .warning := by
  intro f hf
  obtain ⟨code, -, message, rfl⟩ := s.exists_eq_of_mem_advice h hf
  rfl

/-- The findings on the handle at one end of an edge, by the schemas of the kinds. -/
def endFindingsBy (answer : Text → Option KindSchema) (id : Text) (handle : Option Text)
    (declared : KindSchema → Option (List Text)) (code : Code) (edgeTo what : String) :
    List Finding :=
  match s.nodes.find? id, Edge.namedHandle handle with
  | some n, some h => handleFinding code edgeTo what n h ((answer n.kind).bind declared)
  | _, _ => []

/-- The findings on the handles of one edge, by the schemas of the kinds. -/
def handleFindingsBy (answer : Text → Option KindSchema) (e : Edge) : List Finding :=
  s.endFindingsBy answer e.source e.sourceHandle (·.outputs) .invalidSourceHandle "Edge from"
      "output" ++
    s.endFindingsBy answer e.target e.targetHandle (·.inputs) .invalidTargetHandle "Edge to" "input"

theorem yields_handleFindings :
    Yields final s.handleFindings fun found =>
      found = s.edges.flatMap (s.handleFindingsBy final.answer) := by
  have hend (id : Text) (handle : Option Text) (declared : KindSchema → Option (List Text))
      (code : Code) (edgeTo what : String) :
      Yields final (s.endFindings id handle declared code edgeTo what) fun found =>
        found = s.endFindingsBy final.answer id handle declared code edgeTo what := by
    unfold endFindings endFindingsBy
    cases s.nodes.find? id with
    | none => exact yields_pure rfl
    | some n =>
      cases Edge.namedHandle handle with
      | none => exact yields_pure rfl
      | some h =>
        refine ((yields_resolve n.kind).bind fun schema =>
          yields_pure (p := fun found =>
            found = handleFinding code edgeTo what n h (schema.bind declared)) rfl).mono ?_
        rintro _ ⟨_, ⟨rfl, -⟩, rfl⟩
        rfl
  have hedge (e : Edge) : Yields final (s.handleFindingsOf e) fun found =>
      found = s.handleFindingsBy final.answer e := by
    refine ((hend _ _ _ _ _ _).bind fun atSource => (hend _ _ _ _ _ _).bind fun atTarget =>
      yields_pure (p := fun found => found = atSource ++ atTarget) rfl).mono ?_
    rintro _ ⟨_, rfl, _, rfl, rfl⟩
    rfl
  refine (Yields.mapM_eq hedge s.edges).map.mono ?_
  rintro _ ⟨_, rfl, rfl⟩
  rw [List.flatMap_def]

end Snapshot

/-! ## 4. All checks -/

/-- The checks of a run.  Reading the input is one of them. -/
inductive Check
  | input
  | triggers
  | cycles
  | connections
  | fields
  | credentials
  | branches
  | timeouts
  | complexity
  | handles
deriving DecidableEq

/-- The checks in the order in which a run reports them. -/
def Check.all : List Check :=
  [.input, .triggers, .cycles, .connections, .fields, .credentials, .branches, .timeouts,
    .complexity, .handles]

theorem Check.mem_all (check : Check) : check ∈ all := by
  cases check <;> decide

/-- One list of findings for each check. -/
def Check.listing (input triggers cycles connections fields credentials branches timeouts complexity
    handles : List Finding) : Check → List Finding
  | .input => input
  | .triggers => triggers
  | .cycles => cycles
  | .connections => connections
  | .fields => fields
  | .credentials => credentials
  | .branches => branches
  | .timeouts => timeouts
  | .complexity => complexity
  | .handles => handles

/-- The lists one after the other. -/
theorem Check.flatMap_listing (input triggers cycles connections fields credentials branches timeouts
    complexity handles : List Finding) :
    all.flatMap (listing input triggers cycles connections fields credentials branches timeouts
        complexity handles) =
      input ++ triggers ++ cycles ++ connections ++ fields ++ credentials ++ branches ++ timeouts ++
        complexity ++ handles := by
  simp [all, listing]

namespace Gate

/-- **What each check of a run finds**, told from the resolver that the run leaves. -/
structure Finds (g : Gate) (o : Options) (s : Snapshot) (final : Resolver)
    (found : Check → List Finding) : Prop where
  input : found .input = s.findings
  triggers : found .triggers = s.triggerAdvice (s.nodesOf final.category .trigger)
  cycles : ∃ report, s.detectCycle o.ignoreErrorHandles.truthy = .ok report ∧
    found .cycles = s.cycleFindings report
  connections : ∃ report,
    s.classify (s.nodesOf final.category .trigger) (s.nodesOf final.category .controlFlow) =
        .ok report ∧
      found .connections = s.reachabilityFindings report (s.orphansOf final.category) ++
        s.orphanFindings (s.orphansOf final.category)
  fields : s.FieldsFound final g.refinements (found .fields)
  credentials : o.checkCredentials.truthy = true → s.CredentialsFound final (found .credentials)
  without_credentials : o.checkCredentials.truthy = false → found .credentials = []
  branches : s.branchFindings = .ok (found .branches)
  timeouts : s.timeoutFindings g.settings = .ok (found .timeouts)
  complexity : ∃ large advice, s.adviseSize g.settings = .ok large ∧
    s.advice (s.nodeList.map fun n => final.category n.kind) g.settings o.maxNestingDepth =
        .ok advice ∧
      found .complexity = large ++ advice
  handles : found .handles = s.edges.flatMap (s.handleFindingsBy final.answer)

theorem yields_cycleFindings (o : Options) (s : Snapshot) :
    Yields final (cycleFindings o s) fun found => ∃ report,
      s.detectCycle o.ignoreErrorHandles.truthy = .ok report ∧ found = s.cycleFindings report := by
  refine ((yields_lift (p := fun report =>
      s.detectCycle o.ignoreErrorHandles.truthy = .ok report) fun _ h => h).bind fun report =>
    (yields_record _).bind fun _ =>
      yields_pure (p := fun found => found = s.cycleFindings report) rfl).mono ?_
  rintro found ⟨report, hreport, _, -, hfound⟩
  exact ⟨report, hreport, hfound⟩

theorem yields_connectionFindings (s : Snapshot) :
    Yields final (connectionFindings s) fun found => ∃ report,
      s.classify (s.nodesOf final.category .trigger) (s.nodesOf final.category .controlFlow) =
          .ok report ∧
        found = s.reachabilityFindings report (s.orphansOf final.category) ++
          s.orphanFindings (s.orphansOf final.category) := by
  refine (s.yields_analyzeReachability.bind fun report => s.yields_findOrphans.bind fun orphans =>
    yields_pure (p := fun found => found =
      s.reachabilityFindings report orphans ++ s.orphanFindings orphans) rfl).mono ?_
  rintro _ ⟨report, hreport, _, rfl, rfl⟩
  exact ⟨report, hreport, rfl⟩

theorem yields_credentialFindings (o : Options) (s : Snapshot) :
    Yields final (credentialFindings o s) fun found =>
      (o.checkCredentials.truthy = true → s.CredentialsFound final found) ∧
        (o.checkCredentials.truthy = false → found = []) := by
  unfold credentialFindings
  cases ho : o.checkCredentials.truthy with
  | true =>
    exact s.yields_credentialFindings.mono fun _ h => ⟨fun _ => h, fun hfalse => (nomatch hfalse)⟩
  | false => exact yields_pure ⟨fun htrue => (nomatch htrue), fun _ => rfl⟩

/-- **What a run finds by itself is what its checks find**, one after the other. -/
theorem yields_localFindings (g : Gate) (o : Options) (s : Snapshot) :
    Yields final (g.localFindings o s) fun own =>
      ∃ found, g.Finds o s final found ∧ own = Check.all.flatMap found := by
  unfold localFindings
  refine ((s.yields_findTriggers.map (f := s.triggerAdvice)).bind fun triggers =>
    (yields_cycleFindings o s).bind fun cycles =>
    (yields_connectionFindings s).bind fun connections =>
    (s.yields_fieldFindings g.refinements).bind fun fields =>
    (yields_credentialFindings o s).bind fun credentials =>
    (yields_lift (p := fun branches => s.branchFindings = .ok branches)
      fun _ h => h).bind fun branches =>
    (yields_lift (p := fun timeouts => s.timeoutFindings g.settings = .ok timeouts)
      fun _ h => h).bind fun timeouts =>
    (s.yields_complexityFindings g.settings o.maxNestingDepth).bind fun complexity =>
    s.yields_handleFindings.bind fun handles =>
      yields_pure (p := fun own => own = s.findings ++ triggers ++ cycles ++ connections ++ fields ++
        credentials ++ branches ++ timeouts ++ complexity ++ handles) rfl).mono ?_
  rintro own ⟨triggers, ⟨_, rfl, htriggers⟩, cycles, hcycles, connections, hconnections, fields,
    hfields, credentials, ⟨hcredentials, hwithout⟩, branches, hbranches, timeouts, htimeouts,
    complexity, hcomplexity, handles, hhandles, rfl⟩
  exact ⟨Check.listing s.findings triggers cycles connections fields credentials branches timeouts
      complexity handles,
    ⟨rfl, htriggers, hcycles, hconnections, hfields, hcredentials, hwithout, hbranches, htimeouts,
      hcomplexity, hhandles⟩, (Check.flatMap_listing ..).symm⟩

/-! ## 5. Reports -/

variable {g : Gate} {o : Options} {mayWait : Bool} {nodes : Batch Node} {edges : Batch Edge}
  {t : Transport} {s : Snapshot} {report : Report}

/-- **The report on a canvas holds what the checks find**, by what the run leaves resolved, followed by
what asking comes to, if somebody is asked. -/
theorem exists_finds (hlists : (nodes.isList && edges.isList) = true)
    (hs : Snapshot.ofBatches nodes edges = .ok s) (hnodes : s.isEmpty = false)
    (hreport : (g.validate o mayWait nodes edges t).result = .ok report) :
    (Run.begin g.schemas o.lookup).resolver.Extends (g.resolved o mayWait nodes edges) ∧
      ∃ found more, g.Finds o s (g.resolved o mayWait nodes edges) found ∧
        report = .ofFindings (Check.all.flatMap found ++ more) ∧
        (o.withBackend.truthy = false → more = []) ∧
        ∀ x, (g.question o mayWait s).exchange t = some x →
          ∃ outcome, x.result = .ok outcome ∧ more = outcome.findings := by
  obtain ⟨log, hrun⟩ := exists_validate_of_canvas hlists hs hnodes g o.lookup t
  obtain ⟨hresolved, hvalidate⟩ := hrun o mayWait rfl
  rw [hvalidate] at hreport
  rcases hlocal : (g.localFindings o s).execute { Run.begin g.schemas o.lookup with log := log }
    with ⟨f | own, st⟩
  · rw [hlocal] at hreport
    cases hreport
  · rw [hlocal] at hreport hresolved
    obtain ⟨more, rfl, hnone, hsome⟩ := RunResult.exists_of_result_join hreport
    obtain ⟨hextends, htold⟩ := (g.yields_localFindings o s : Yields st.resolver _ _) _ _ _ hlocal
    obtain ⟨found, hfound, rfl⟩ := htold (.refl _)
    rw [hresolved]
    refine ⟨hextends, found, more, hfound, rfl, fun hunwanted => hnone ?_, hsome⟩
    rw [g.question_of_unwanted hunwanted]
    rfl

end Gate

end WorkflowGate
