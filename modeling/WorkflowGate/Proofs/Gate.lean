/-
# When the gate returns a report

Without a back end, what a run finds goes by the registry alone where there is no lookup.  So
whether there is a report can be read off the canvas: every check ends with findings, except where a
value cannot be converted.

* `endsIff_localFindings`: the checks end exactly when the canvas can be judged;
* `succeeds_validate_iff`: **there is a report exactly when the entries can be read and the canvas
  that they make can be judged**.
-/
import WorkflowGate.Gate
import WorkflowGate.Proofs.Check.Judgeable
import WorkflowGate.Proofs.Check.Refined
import WorkflowGate.Proofs.Graph.Acyclic
import WorkflowGate.Proofs.Graph.Ledger
import WorkflowGate.Proofs.Graph.Reached
import WorkflowGate.Proofs.Graph.Readable
import WorkflowGate.Proofs.Steady

namespace WorkflowGate

open Result Run

/-- The thresholds can be compared with, and those on time are within the range of floats. -/
structure Settings.Usable (settings : Settings) : Prop where
  size : settings.maxNodes.isNumeric = true
  llms : settings.maxLlmNodes.isNumeric = true
  defaultTimeout : Succeeds settings.defaultNodeTimeout.toFloat
  nodeTimeout : settings.maxNodeTimeout.isNumeric = true
  shownTimeout : Succeeds settings.maxNodeTimeout.toFloat
  totalTimeout : ∃ limit, settings.maxTotalTimeout = .int limit

variable {registry : Registry} {answers : Text → Except Fault Resolver.Loaded}

/-! ## 1. The graph -/

namespace Snapshot

/-- Sorting out the nodes of a category. -/
theorem computes_nodesOf (s : Snapshot) {category : Text → KindCategory}
    (h : ∀ n ∈ s.nodeList, Computes registry answers (categoryOf n.kind) (.ok (category n.kind)))
    (wanted : KindCategory) :
    Computes registry answers
      ((·.map Node.id) <$> s.nodeList.filterM fun n => do return (← categoryOf n.kind) = wanted)
      (.ok (s.nodesOf category wanted)) := by
  have htest (n : Node) (hn : n ∈ s.nodeList) :
      Computes registry answers (do return (← categoryOf n.kind) = wanted : Run Bool)
        (.ok (decide (category n.kind = wanted))) :=
    (h n hn).bind fun c => computes_pure (decide (c = wanted))
  have hfilter : Computes registry answers (s.nodeList.filterM _) _ := Computes.filterM htest
  rw [filterM_eq_ok fun n _ => rfl] at hfilter
  exact hfilter.map _

/-- Looking at the triggers always ends. -/
theorem endsIff_triggerFindings (s : Snapshot) (h : ∀ kind, Succeeds (answers kind)) :
    EndsIff registry answers s.triggerFindings True := by
  obtain ⟨category, hcategory⟩ := exists_computes_categoryOf registry h
  exact (s.computes_nodesOf (fun n _ => hcategory n.kind) .trigger).ends.map _

/-- So does sorting the nodes, since a search never loses its way in a snapshot. -/
theorem Consistent.endsIff_analyzeReachability {s : Snapshot} (hs : s.Consistent)
    (h : ∀ kind, Succeeds (answers kind)) :
    EndsIff registry answers s.analyzeReachability True := by
  obtain ⟨category, hcategory⟩ := exists_computes_categoryOf registry h
  refine (s.computes_nodesOf (fun n _ => hcategory n.kind) .trigger).andThen ?_
  split
  · rw [classify_without_triggers]
    exact endsIff_pure _
  · refine (s.computes_nodesOf (fun n _ => hcategory n.kind) .controlFlow).andThen ?_
    obtain ⟨report, hclassify, -⟩ := hs.classify_spec (s.nodesOf category .controlFlow)
      fun t ht => hs.mem_keys_of_mem_nodesOf (ht : t ∈ s.nodesOf category .trigger)
    rw [hclassify]
    exact (computes_pure report).andThen ((endsIff_record _).andThen fun _ => endsIff_pure report)

theorem endsIff_findOrphans (s : Snapshot) (h : ∀ kind, Succeeds (answers kind)) :
    EndsIff registry answers s.findOrphans True := by
  obtain ⟨category, hcategory⟩ := exists_computes_categoryOf registry h
  refine (EndsIff.filterM (fun n => ?_) s.nodeList).map _
  split
  · exact endsIff_pure false
  · exact ((hcategory n.kind).ends.andThen fun _ => endsIff_pure _).andThen fun _ => endsIff_pure _

theorem endsIff_handleFindings (s : Snapshot) (h : ∀ kind, Succeeds (answers kind)) :
    EndsIff registry answers s.handleFindings True := by
  have hend (id : Text) (handle : Option Text) (declared : KindSchema → Option (List Text))
      (code : Code) (edgeTo what : String) :
      EndsIff registry answers (s.endFindings id handle declared code edgeTo what) True := by
    unfold endFindings
    split
    · exact (endsIff_resolve h _).andThen fun _ => endsIff_pure _
    · exact endsIff_pure []
  refine (EndsIff.mapM_always (fun e => ?_) s.edges).map _
  exact (hend _ _ _ _ _ _).andThen fun _ => (hend _ _ _ _ _ _).andThen fun _ => endsIff_pure _

/-! ## 2. The fields -/

theorem endsIff_credentialFindings (s : Snapshot) (h : ∀ kind, Succeeds (answers kind)) :
    EndsIff registry answers s.credentialFindings True := by
  refine (EndsIff.mapM_always (fun n => ?_) s.nodeList).map _
  refine (endsIff_resolve h n.kind).andThen fun schema => ?_
  cases schema <;> exact endsIff_pure _

end Snapshot

namespace Node

/-- What a schema for its kind, or the lack of one, makes of the fields of a node. -/
def findingsBy (n : Node) (refinements : RefinementRegistry) (schema : Option KindSchema)
    (rejected : Bool) : Except Fault (List Finding) :=
  (match schema with
    | some schema => n.schemaFindings (refinements.ownedFields n.kind) schema
    | none => pure []) >>= fun general =>
  refinements.tell n schema >>= fun _ =>
  pure (Finding.onlyIf (schema.isNone && rejected) n.unreadableSchema ++ general ++
    refinements.said n schema)

/-- What has been found on a node: that its schema cannot be read, what a schema says of it, and what
refinements do. -/
theorem exists_general_of_findingsBy {n : Node} {refinements : RefinementRegistry}
    {schema : Option KindSchema} {rejected : Bool} {found : List Finding}
    (h : n.findingsBy refinements schema rejected = .ok found) :
    ∃ general,
      (match schema with
        | some schema => n.schemaFindings (refinements.ownedFields n.kind) schema
        | none => pure []) = .ok general ∧
      found = Finding.onlyIf (schema.isNone && rejected) n.unreadableSchema ++ general ++
        refinements.said n schema := by
  obtain ⟨general, hgeneral, h⟩ := bind_eq_ok_iff.mp h
  obtain ⟨_, -, h⟩ := bind_eq_ok_iff.mp h
  cases h
  exact ⟨general, hgeneral, rfl⟩

/-- What refinements say goes by the schema that they are shown. -/
theorem computes_refinementFindings (n : Node) (refinements : RefinementRegistry)
    (schema : Option KindSchema) :
    Computes registry answers (n.refinementFindings refinements schema)
      ((fun _ => refinements.said n schema) <$> refinements.tell n schema) := by
  intro st h
  obtain ⟨records, hrun⟩ := n.execute_refinementFindings refinements schema st
  exact ⟨_, hrun, h⟩

/-- The findings on the fields of a node go by the answer for its kind.  A refinement that fails stops a
run only where the log cannot tell of it: else its failure is a finding. -/
theorem computes_fieldFindings (n : Node) (refinements : RefinementRegistry)
    (hkind : n.kind.isEmpty = false) :
    Computes registry answers (n.fieldFindings refinements)
      (answers n.kind >>= fun loaded =>
        n.findingsBy refinements loaded.schema loaded.rejection.isSome) := by
  refine computes_resolve_rejected hkind (y := n.findingsBy refinements) fun schema rejected => ?_
  have hrefined (found : List Finding) : Computes registry answers
      (do return found ++ (← n.refinementFindings refinements schema))
      (refinements.tell n schema >>= fun _ => pure (found ++ refinements.said n schema)) := by
    have hrefine : Computes registry answers (do return found ++ (← n.refinementFindings refinements schema))
        (((fun _ => refinements.said n schema) <$> refinements.tell n schema) >>= fun refined =>
          pure (found ++ refined)) :=
      (n.computes_refinementFindings refinements schema).bind fun refined => computes_pure _
    rwa [bind_map_left] at hrefine
  cases schema with
  | some schema => exact (computes_lift _).bind fun general => hrefined _
  | none => exact (computes_pure []).bind fun general => hrefined _

/-- The findings on the fields of a node, by a table of answers. -/
def fieldFindingsBy (n : Node) (refinements : RefinementRegistry)
    (answers : Text → Except Fault Resolver.Loaded) : Except Fault (List Finding) :=
  if n.kind.isEmpty then .ok []
  else answers n.kind >>= fun loaded =>
    n.findingsBy refinements loaded.schema loaded.rejection.isSome

/-- Whatever else is said of the fields, only the schema and failures of which the log cannot tell can
stop a run. -/
theorem succeeds_findingsBy_iff (n : Node) (refinements : RefinementRegistry)
    (schema : Option KindSchema) (rejected : Bool) :
    Succeeds (n.findingsBy refinements schema rejected) ↔
      (∀ known, schema = some known → ∀ spec ∈ known.fields, n.JudgeableField spec) ∧
        Succeeds (refinements.tell n schema) := by
  refine (succeeds_bind_iff_and fun general => succeeds_bind_iff_left fun _ => succeeds_pure _).trans
    (and_congr_left' ?_)
  cases schema with
  | some known => simp [succeeds_schemaFindings_iff]
  | none => simp

/-- The fields of a node can be held against the schema of its kind, if it has one. -/
def JudgeableFields (n : Node) (registry : Registry) : Prop :=
  n.kind.isEmpty = false → ∀ schema, registry.find? n.kind = some schema →
    ∀ spec ∈ schema.fields, n.JudgeableField spec

/-- The log can tell of the failures of refinements on a node, if it has a kind. -/
def FailuresTold (n : Node) (refinements : RefinementRegistry) (registry : Registry) : Prop :=
  n.kind.isEmpty = false → Succeeds (refinements.tell n (registry.find? n.kind))

end Node

/-- What a registry answers where there is no lookup. -/
def Registry.answerOf (registry : Registry) (kind : Text) : Except Fault Resolver.Loaded :=
  .ok ⟨registry.find? kind, none⟩

namespace Snapshot

/-- The findings on the fields of all nodes go by the answers for their kinds. -/
theorem computes_fieldFindings (s : Snapshot) (refinements : RefinementRegistry) :
    Computes registry answers (s.fieldFindings refinements)
      (List.flatten <$> s.nodeList.mapM fun n => n.fieldFindingsBy refinements answers) := by
  refine (Computes.mapM fun n _ => ?_).map _
  unfold Node.fieldFindingsBy
  cases hkind : n.kind.isEmpty with
  | true => exact computes_pure []
  | false => exact n.computes_fieldFindings refinements hkind

theorem endsIff_fieldFindings (s : Snapshot) (refinements : RefinementRegistry) :
    EndsIff registry registry.answerOf (s.fieldFindings refinements)
      (∀ n ∈ s.nodeList, n.JudgeableFields registry ∧ n.FailuresTold refinements registry) := by
  refine (EndsIff.mapM (fun n => ?_) s.nodeList).map _
  unfold Node.JudgeableFields Node.FailuresTold
  cases hkind : n.kind.isEmpty with
  | true => exact (endsIff_pure []).congr (by simp)
  | false =>
    refine (n.computes_fieldFindings refinements hkind).endsIff.congr ?_
    refine (n.succeeds_findingsBy_iff refinements (registry.find? n.kind) false).trans ?_
    exact ⟨fun h => ⟨fun _ => h.1, fun _ => h.2⟩, fun h => ⟨h.1 rfl, h.2 rfl⟩⟩

/-! ## 3. All checks -/

/-- Advice on size never stops a run, advice on time does where the estimate is infinite. -/
theorem endsIff_complexityFindings (s : Snapshot) {settings : Settings} {depth : Value}
    (husable : settings.Usable) (hdepth : depth.isNumeric = true)
    (h : ∀ kind, Succeeds (answers kind)) :
    EndsIff registry answers (s.complexityFindings settings depth)
      ((∀ n ∈ s.nodeList, n.JudgeableTimeout) ∧
        s.estimateRuntime settings ≠ .ok (.infinite false)) := by
  obtain ⟨limit, hlimit⟩ := husable.totalTimeout
  refine EndsIff.andThen ?_ fun large => EndsIff.andThen ?_ fun categories => ?_
  · exact (endsIff_lift _).congr
      (iff_true_intro (succeeds_adviseCount _ husable.size _ _))
  · obtain ⟨category, hcategory⟩ := exists_computes_categoryOf registry h
    refine EndsIff.mapM_always (fun n => ?_) s.nodeList
    exact (hcategory n.kind).ends
  · refine ((endsIff_lift _).bind fun _ => endsIff_pure _).congr ?_
    rw [and_true, s.succeeds_advice_iff categories husable.llms hdepth,
      s.succeeds_adviseRuntime_iff husable.defaultTimeout hlimit]

/-- **The canvas can be judged**: every value that a check converts can be converted, and the run
time is not estimated as infinite. -/
structure Judgeable (s : Snapshot) (registry : Registry) (settings : Settings) : Prop where
  fields : ∀ n ∈ s.nodeList, n.JudgeableFields registry
  cases : ∀ n ∈ s.nodeList, n.JudgeableCases
  timeouts : ∀ n ∈ s.nodeList, n.JudgeableTimeout
  estimate : s.estimateRuntime settings ≠ .ok (.infinite false)

/-- A canvas of one node can be judged when the node can and its run time is finite. -/
theorem judgeable_of_single {s : Snapshot} {n : Node} {settings : Settings} (hs : s.nodeList = [n])
    (hfields : n.JudgeableFields registry) (hcases : n.JudgeableCases)
    (htimeout : n.JudgeableTimeout) (hestimate : s.estimateRuntime settings ≠ .ok (.infinite false)) :
    s.Judgeable registry settings where
  fields := by rwa [hs, List.forall_mem_singleton]
  cases := by rwa [hs, List.forall_mem_singleton]
  timeouts := by rwa [hs, List.forall_mem_singleton]
  estimate := hestimate

/-- So can a canvas on which every form is empty. -/
theorem judgeable_of_blank {s : Snapshot} {settings : Settings}
    (hblank : ∀ n ∈ s.nodeList, n.config = [])
    (hestimate : s.estimateRuntime settings ≠ .ok (.infinite false)) :
    s.Judgeable registry settings := by
  have hnull (n : Node) (hn : n ∈ s.nodeList) (key : Text) : n.get key = .null := by
    rw [Node.get, hblank n hn]
    rfl
  refine ⟨fun n hn _ schema _ spec _ hthere => ?_, fun n hn _ => ?_, fun n hn => ?_, hestimate⟩
  · rw [hnull n hn] at hthere
    cases hthere
  · rw [hnull n hn]
    trivial
  · refine ⟨?_, fun _ => ⟨?_, fun _ => trivial⟩⟩
    · rw [hnull n hn]
      trivial
    · rw [hnull n hn]
      trivial

/-- A node without a kind, with lists within lists, so many of them, on its form. -/
def nestedNode (n : Nat) : Node := ⟨"deep", Text.empty, [("v", .nested n)], none, none⟩

/-- However deep they are, nothing on it has to be converted. -/
theorem judgeable_nestedNode (n : Nat) (registry : Registry) :
    (Snapshot.ofReadings [.node (nestedNode n)] []).Judgeable registry {} := by
  refine Snapshot.judgeable_of_single (n := nestedNode n) rfl (fun hkind => nomatch hkind)
    (fun hkind => nomatch hkind) ⟨trivial, fun _ => ⟨trivial, fun _ => trivial⟩⟩ ?_
  have hsame : (Snapshot.ofReadings [.node (nestedNode n)] []).estimateRuntime {} =
      (Snapshot.ofReadings [.node (nestedNode 0)] []).estimateRuntime {} := rfl
  rw [hsame]
  decide +kernel

end Snapshot

namespace Gate

/-- A gate whose thresholds can be compared with, and of whose refinements the log can tell if they
fail. -/
structure Usable (g : Gate) : Prop where
  settings : g.settings.Usable
  refinements : g.refinements.Tells

/-- The search for cycles never loses its way in a snapshot. -/
theorem endsIff_cycleFindings (o : Options) {s : Snapshot} (hs : s.Consistent) :
    EndsIff registry answers (cycleFindings o s) True := by
  obtain ⟨report, hreport⟩ := hs.exists_detectCycle o.ignoreErrorHandles.truthy
  unfold cycleFindings
  rw [hreport]
  exact (computes_pure report).andThen ((endsIff_record _).andThen fun _ => endsIff_pure _)

theorem endsIff_connectionFindings {s : Snapshot} (hs : s.Consistent)
    (h : ∀ kind, Succeeds (answers kind)) :
    EndsIff registry answers (connectionFindings s) True :=
  (hs.endsIff_analyzeReachability h).andThen fun _ =>
    (s.endsIff_findOrphans h).andThen fun _ => endsIff_pure _

theorem endsIff_credentialFindings (o : Options) (s : Snapshot)
    (h : ∀ kind, Succeeds (answers kind)) :
    EndsIff registry answers (credentialFindings o s) True := by
  unfold credentialFindings
  split
  · exact s.endsIff_credentialFindings h
  · exact endsIff_pure []

/-- **The checks of a run end exactly when the canvas can be judged.** -/
theorem endsIff_localFindings (g : Gate) (o : Options) {s : Snapshot} (hs : s.Consistent)
    (husable : g.Usable) (hdepth : o.maxNestingDepth.isNumeric = true) :
    EndsIff registry registry.answerOf (g.localFindings o s)
      (s.Judgeable registry g.settings) := by
  have h (kind : Text) : Succeeds (registry.answerOf kind) := succeeds_ok _
  have hparts : EndsIff registry registry.answerOf (g.localFindings o s)
      ((∀ n ∈ s.nodeList, n.JudgeableFields registry) ∧ (∀ n ∈ s.nodeList, n.JudgeableCases) ∧
        (∀ n ∈ s.nodeList, n.JudgeableTimeout) ∧
        ((∀ n ∈ s.nodeList, n.JudgeableTimeout) ∧
          s.estimateRuntime g.settings ≠ .ok (.infinite false)) ∧ True) := by
    refine (s.endsIff_triggerFindings h).andThen fun triggers => ?_
    refine (endsIff_cycleFindings o hs).andThen fun cycles => ?_
    refine (endsIff_connectionFindings hs h).andThen fun connections => ?_
    refine ((s.endsIff_fieldFindings g.refinements).congr
      (forall₂_congr fun n _ => and_iff_left fun _ => ⟨(), husable.refinements.tell_eq n _⟩)).bind
      fun fields => ?_
    refine (endsIff_credentialFindings o s h).andThen fun credentials => ?_
    refine ((endsIff_lift _).congr s.succeeds_branchFindings_iff).bind fun branches => ?_
    refine ((endsIff_lift _).congr
      (s.succeeds_timeoutFindings_iff husable.settings.nodeTimeout husable.settings.shownTimeout)).bind
      fun timeouts => ?_
    refine (s.endsIff_complexityFindings husable.settings hdepth h).bind fun complexity => ?_
    exact (s.endsIff_handleFindings h).andThen fun handles => endsIff_pure _
  refine hparts.congr ⟨?_, ?_⟩
  · rintro ⟨hfields, hcases, htimeouts, ⟨-, hestimate⟩, -⟩
    exact ⟨hfields, hcases, htimeouts, hestimate⟩
  · rintro ⟨hfields, hcases, htimeouts, hestimate⟩
    exact ⟨hfields, hcases, htimeouts, ⟨htimeouts, hestimate⟩, trivial⟩

end Gate

/-! ## 4. Reports -/

theorem Settings.usable_default : Settings.Usable {} where
  size := rfl
  llms := rfl
  defaultTimeout := (Value.succeeds_toFloat_int_iff 60).mpr (by decide +kernel)
  nodeTimeout := rfl
  shownTimeout := (Value.succeeds_toFloat_int_iff 300).mpr (by decide +kernel)
  totalTimeout := ⟨600, rfl⟩

/-- With the default thresholds and the built-in refinements, whatever else a gate has. -/
theorem Gate.usable_default {registry : Registry} {backend : Option Authority} :
    Gate.Usable { registry := registry, backend := backend } :=
  ⟨Settings.usable_default, RefinementRegistry.tells_builtin⟩

/-- Reading a canvas within a run gives its snapshot, if it has one. -/
theorem Snapshot.computes_adapt (nodes : Batch Node) (edges : Batch Edge) :
    Computes registry answers (Snapshot.adapt nodes edges) (Snapshot.ofBatches nodes edges) := by
  have hcomputes : Computes registry answers (Snapshot.adapt nodes edges)
      ((nodes.toEntries >>= (·.mapM Entry.readNode)) >>= fun nodeReadings =>
        pure () >>= fun _ =>
        (edges.toEntries >>= (·.mapM Entry.readEdge)) >>= fun edgeReadings =>
        pure () >>= fun _ => pure (Snapshot.ofReadings nodeReadings edgeReadings)) := by
    refine (computes_lift _).bind fun nodeReadings => (computes_record _).bind fun _ => ?_
    refine (computes_lift _).bind fun edgeReadings => (computes_record _).bind fun _ => ?_
    exact computes_pure _
  simpa only [Snapshot.ofBatches, bind_assoc, pure_bind] using hcomputes

namespace Gate

/-- **Two lists make a canvas of which there is a report**: all members can be read, and what they
make has no nodes or can be judged. -/
structure Reportable (registry : Registry) (settings : Settings) (ns es : List Value) : Prop where
  nodes : ∀ v ∈ ns, v.ReadableNode
  edges : ∀ v ∈ es, v.ReadableEdge
  canvas : ∀ s, Snapshot.ofBatches (.entries (ns.map .raw)) (.entries (es.map .raw)) = .ok s →
    s.isEmpty = false → s.Judgeable registry settings

theorem reportable_iff_of_ok {settings : Settings} {ns es : List Value} {s : Snapshot}
    (hs : Snapshot.ofBatches (.entries (ns.map .raw)) (.entries (es.map .raw)) = .ok s) :
    Reportable registry settings ns es ↔ (s.isEmpty = false → s.Judgeable registry settings) := by
  constructor
  · exact fun h => h.canvas s hs
  · intro h
    obtain ⟨hnodes, hedges⟩ := (Snapshot.succeeds_ofBatches_iff ns es).mp ⟨s, hs⟩
    refine ⟨hnodes, hedges, fun s' hs' => ?_⟩
    rw [hs] at hs'
    cases hs'
    exact h

theorem not_reportable_of_error {settings : Settings} {ns es : List Value} {f : Fault}
    (hf : Snapshot.ofBatches (.entries (ns.map .raw)) (.entries (es.map .raw)) = .error f) :
    ¬ Reportable registry settings ns es := by
  intro h
  have hread := (Snapshot.succeeds_ofBatches_iff ns es).mpr ⟨h.nodes, h.edges⟩
  rw [hf] at hread
  exact not_succeeds_error f hread

/-- Both are lists, or something is said against them. -/
theorem isEmpty_inputFindings_iff (nodes edges : Value) :
    (inputFindings (.ofValue nodes) (.ofValue edges)).isEmpty = true ↔
      ∃ ns es, nodes.members? = some ns ∧ edges.members? = some es := by
  unfold inputFindings Batch.ofValue
  cases hn : nodes.members? <;> cases he : edges.members? <;>
    simp [Batch.isList, hn, he, Finding.onlyIf]

/-- What a run does by itself on a canvas that can be read ends exactly when the canvas can be judged. -/
theorem endsIff_stage_of_snapshot (g : Gate) (o : Options) (mayWait : Bool) {nodes : Batch Node}
    {edges : Batch Edge} {s : Snapshot} (hlists : (inputFindings nodes edges).isEmpty = true)
    (hs : Snapshot.ofBatches nodes edges = .ok s) (husable : g.Usable)
    (hdepth : o.maxNestingDepth.isNumeric = true) :
    EndsIff registry registry.answerOf (g.stage o mayWait nodes edges)
      (s.isEmpty = false → s.Judgeable registry g.settings) := by
  unfold stage intake
  simp only [hlists, if_true, bind_assoc]
  have hadapt : Computes registry registry.answerOf (Snapshot.adapt nodes edges) _ :=
    Snapshot.computes_adapt nodes edges
  rw [hs] at hadapt
  refine EndsIff.congr (hadapt.andThen ?_) Iff.rfl
  cases hempty : s.isEmpty with
  | true => exact (endsIff_pure _).congr (by simp)
  | false =>
    have hlocal : EndsIff registry registry.answerOf (g.localFindings o s) _ :=
      g.endsIff_localFindings o (Snapshot.consistent_of_ofBatches hs) husable hdepth
    exact (hlocal.bind fun own => endsIff_pure _).congr (by simp)

/-- What a run does by itself on two lists ends exactly when there is a report of them. -/
theorem endsIff_stage_entries (g : Gate) (o : Options) (mayWait : Bool) (ns es : List Value)
    (husable : g.Usable) (hdepth : o.maxNestingDepth.isNumeric = true) :
    EndsIff registry registry.answerOf
      (g.stage o mayWait (.entries (ns.map .raw)) (.entries (es.map .raw)))
      (Reportable registry g.settings ns es) := by
  have hlists : (inputFindings (.entries (ns.map .raw)) (.entries (es.map .raw))).isEmpty = true :=
    rfl
  cases hs : Snapshot.ofBatches (.entries (ns.map .raw)) (.entries (es.map .raw)) with
  | error f =>
    unfold stage intake
    simp only [hlists, if_true, bind_assoc]
    have hadapt : Computes registry registry.answerOf
        (Snapshot.adapt (.entries (ns.map .raw)) (.entries (es.map .raw))) _ :=
      Snapshot.computes_adapt _ _
    rw [hs] at hadapt
    exact hadapt.stops.congr (iff_of_false id (not_reportable_of_error hs))
  | ok s =>
    exact (g.endsIff_stage_of_snapshot o mayWait hlists hs husable hdepth).congr
      (reportable_iff_of_ok hs).symm

/-- Values that are no lists get a report. -/
theorem endsIff_stage (g : Gate) (o : Options) (mayWait : Bool) (nodes edges : Value)
    (husable : g.Usable) (hdepth : o.maxNestingDepth.isNumeric = true) :
    EndsIff registry registry.answerOf (g.stage o mayWait (.ofValue nodes) (.ofValue edges))
      (∀ ns es, nodes.members? = some ns → edges.members? = some es →
        Reportable registry g.settings ns es) := by
  by_cases hlists : (inputFindings (.ofValue nodes) (.ofValue edges)).isEmpty = true
  · obtain ⟨ns, es, hn, he⟩ := (isEmpty_inputFindings_iff nodes edges).mp hlists
    rw [Batch.ofValue, Batch.ofValue, hn, he]
    refine (g.endsIff_stage_entries o mayWait ns es husable hdepth).congr ?_
    constructor
    · rintro h ns' es' hn' he'
      cases hn'
      cases he'
      exact h
    · exact fun h => h ns es rfl rfl
  · unfold stage intake
    simp only [hlists, Bool.false_eq_true, if_false, bind_assoc]
    refine EndsIff.congr ((endsIff_record _).andThen fun _ => endsIff_pure _) ?_
    refine iff_of_true trivial fun ns es hn he => ?_
    exact absurd ((isEmpty_inputFindings_iff nodes edges).mpr ⟨ns, es, hn, he⟩) hlists

/-- Nobody is asked where the caller does not want it. -/
theorem question_of_unwanted (g : Gate) {o : Options} (h : o.withBackend.truthy = false)
    (mayWait : Bool) (s : Snapshot) : g.question o mayWait s = .unasked := by
  simp [question, h]

/-- What is open after a run's own part is the question about its snapshot. -/
theorem question_of_stage {g : Gate} {o : Options} {mayWait : Bool} {nodes : Batch Node}
    {edges : Batch Edge} {st : RunState} {own : List Finding} {q : Question}
    (h : ((g.stage o mayWait nodes edges).execute st).1 = .ok (.pending own q)) :
    ∃ s, q = g.question o mayWait s := by
  rw [stage, execute_bind] at h
  rcases hintake : (intake nodes edges).execute st with ⟨f | (report | s), st₁⟩
  · rw [hintake] at h
    cases h
  · rw [hintake] at h
    cases h
  · simp only [hintake, execute_bind] at h
    rcases hlocal : (g.localFindings o s).execute st₁ with ⟨f | own', st₂⟩
    · rw [hlocal] at h
      cases h
    · rw [hlocal] at h
      cases h
      exact ⟨s, rfl⟩

/-- Where nobody is asked, a run ends as its own part does. -/
theorem succeeds_validate_iff_stage (g : Gate) {o : Options} (h : o.withBackend.truthy = false)
    (mayWait : Bool) (nodes : Batch Node) (edges : Batch Edge) (t : Transport) :
    Succeeds (g.validate o mayWait nodes edges t).result ↔
      Succeeds ((g.stage o mayWait nodes edges).execute (Run.begin g.schemas o.lookup)).1 := by
  rcases hrun : (g.stage o mayWait nodes edges).execute (Run.begin g.schemas o.lookup) with ⟨x, st⟩
  have hopened : g.start o mayWait nodes edges = ⟨x, st.log⟩ := by
    rw [start, hrun]
  rw [validate, hopened]
  cases x with
  | error f => exact iff_of_false (not_succeeds_error f) (not_succeeds_error f)
  | ok stage =>
    refine iff_of_true ?_ (succeeds_ok stage)
    cases stage with
    | settled report => exact succeeds_ok report
    | pending own q =>
      obtain ⟨s, rfl⟩ := question_of_stage (congrArg Prod.fst hrun)
      rw [g.question_of_unwanted h]
      exact succeeds_ok _

/-- A run by the registry alone. -/
theorem succeeds_validate_of_unwanted (g : Gate) {o : Options} (hlookup : o.lookup = none)
    (hunwanted : o.withBackend.truthy = false) (husable : g.Usable)
    (hdepth : o.maxNestingDepth.isNumeric = true) (mayWait : Bool) (nodes edges : Value)
    (t : Transport) :
    Succeeds (g.validate o mayWait (.ofValue nodes) (.ofValue edges) t).result ↔
      ∀ ns es, nodes.members? = some ns → edges.members? = some es →
        Reportable g.schemas g.settings ns es := by
  rw [g.succeeds_validate_iff_stage hunwanted, hlookup]
  exact (g.endsIff_stage o mayWait nodes edges husable hdepth).succeeds_execute
    (Resolver.steady_begin g.schemas)

/-- A canvas that has been read and can be judged gets a report, whatever its entries were. -/
theorem exists_report_of_snapshot (g : Gate) {o : Options} (hlookup : o.lookup = none)
    (hunwanted : o.withBackend.truthy = false) (husable : g.Usable)
    (hdepth : o.maxNestingDepth.isNumeric = true) (mayWait : Bool) {nodes : Batch Node}
    {edges : Batch Edge} {s : Snapshot} (hlists : (inputFindings nodes edges).isEmpty = true)
    (hs : Snapshot.ofBatches nodes edges = .ok s) (hjudged : s.Judgeable g.schemas g.settings)
    (t : Transport) : ∃ report, (g.validate o mayWait nodes edges t).result = .ok report := by
  refine (g.succeeds_validate_iff_stage hunwanted mayWait nodes edges t).mpr ?_
  rw [hlookup]
  exact ((g.endsIff_stage_of_snapshot o mayWait hlists hs husable hdepth).succeeds_execute
    (Resolver.steady_begin g.schemas)).mpr fun _ => hjudged

/-- A canvas that can be read and judged gets a report. -/
theorem exists_report_of_judgeable (g : Gate) {o : Options} (hlookup : o.lookup = none)
    (hunwanted : o.withBackend.truthy = false) (husable : g.Usable)
    (hdepth : o.maxNestingDepth.isNumeric = true) (mayWait : Bool) {ns es : List Value} {s : Snapshot}
    (hs : Snapshot.ofBatches (.entries (ns.map .raw)) (.entries (es.map .raw)) = .ok s)
    (hjudged : s.Judgeable g.schemas g.settings) (t : Transport) :
    ∃ report, (g.validate o mayWait (.ofValue (.list ns)) (.ofValue (.list es)) t).result =
      .ok report :=
  g.exists_report_of_snapshot hlookup hunwanted husable hdepth mayWait rfl hs hjudged t

/-- A canvas whose forms are all blank gets a report. -/
theorem exists_report_of_blank (g : Gate) (o : Options) (hlookup : o.lookup = none)
    (hunwanted : o.withBackend.truthy = false) (husable : g.Usable)
    (hdepth : o.maxNestingDepth.isNumeric = true) (mayWait : Bool) {ns es : List Value}
    {nodes : List Node} {edges : List Edge}
    (hnodes : (ns.map Entry.raw).mapM Entry.readNode = .ok (nodes.map .node))
    (hedges : (es.map Entry.raw).mapM Entry.readEdge = .ok (edges.map some))
    (hblank : ∀ n ∈ nodes, n.config = [])
    (hestimate : (Snapshot.ofReadings (nodes.map .node) (edges.map some)).estimateRuntime g.settings ≠
      .ok (.infinite false)) (t : Transport) :
    ∃ report, (g.validate o mayWait (.ofValue (.list ns)) (.ofValue (.list es)) t).result =
      .ok report := by
  refine g.exists_report_of_judgeable hlookup hunwanted husable hdepth mayWait
    (Snapshot.ofBatches_of_readable hnodes hedges) ?_ t
  refine Snapshot.judgeable_of_blank (fun n hn => ?_) hestimate
  have hread := (Snapshot.balanced_ofReadings _ _).node_mem hn
  obtain ⟨m, hm, heq⟩ := List.mem_map.mp hread
  cases heq
  exact hblank n hm

/-- **With the built-in registry and the default thresholds, without lookup and back end, there is a
report exactly when the input is no canvas, or one whose entries can be read and whose values can be
judged**, whatever the other options are. -/
theorem succeeds_validate_iff (backend : Option Authority)
    (checkCredentials checkTypes checkSubworkflowCycles ignoreErrorHandles : Value)
    (maxNestingDepth : Int) (mayWait : Bool) (nodes edges : Value) (t : Transport) :
    Succeeds (({ backend := backend } : Gate).validate
        { checkCredentials := checkCredentials, checkTypes := checkTypes,
          checkSubworkflowCycles := checkSubworkflowCycles,
          ignoreErrorHandles := ignoreErrorHandles, maxNestingDepth := .int maxNestingDepth }
        mayWait (.ofValue nodes) (.ofValue edges) t).result ↔
      ∀ ns es, nodes.members? = some ns → edges.members? = some es →
        Reportable .builtin {} ns es := by
  have hschemas : ({ backend := backend } : Gate).schemas = .builtin := by
    unfold schemas
    split <;> rfl
  rw [succeeds_validate_of_unwanted _ rfl rfl usable_default rfl, hschemas]

/-- A node that waits for longer than any float can say. -/
def endlessWait : Value :=
  .ofFields [("id", .text "a"), ("kind", .text "delay"),
    ("config", .ofFields [("seconds", .int (Nat.pow 10 400))])]

/-- **A whole number that is too large ends a run without a report**, though it is a value that a form
can hold. -/
theorem not_succeeds_validate_endlessWait :
    ¬ Succeeds (({} : Gate).validate {} true (.ofValue (.list [endlessWait]))
      (.ofValue (.list [])) { deliver := fun _ => .silence }).result := by
  intro h
  rw [succeeds_validate_of_unwanted _ rfl rfl usable_default rfl] at h
  let n : Node := ⟨"a", "delay", [("seconds", .int (Nat.pow 10 400))], none, none⟩
  have hjudged := (h [endlessWait] [] rfl rfl).canvas (Snapshot.ofReadings [.node n] []) rfl rfl
  have hfield : ∃ schema, Registry.builtin.find? n.kind = some schema ∧
      ∃ spec ∈ schema.fields, spec.id = "seconds" ∧ spec.valueKind = .number := by
    refine ⟨_, rfl, ?_⟩
    decide +kernel
  obtain ⟨schema, hschema, spec, hspec, hid, hnumber⟩ := hfield
  have hn : n ∈ (Snapshot.ofReadings [.node n] []).nodeList := (List.mem_cons_self : n ∈ [n])
  have hfits := hjudged.fields n hn rfl schema hschema spec hspec
  have hvalue : n.get "seconds" = .int (Nat.pow 10 400) := rfl
  rw [Node.JudgeableField, hid, hnumber, hvalue] at hfits
  have htooLarge : ¬ (Value.int (Nat.pow 10 400)).FitsFloat :=
    Nat.not_lt.mpr (by decide +kernel)
  exact htooLarge (hfits rfl rfl)

end Gate

end WorkflowGate
