/-
# Checks on a tidied graph

No check looks at the label of a node for itself.  A message calls the node by its label, which is its
id where the label is empty, and everything else is read off its id, kind, form and group.  No check
looks at a handle that is not named either.  So a run says the same of a graph and of the tidied graph,
with the same lookups in the same order and the same records: each check is one computation on both.

A refinement may be anything that somebody has registered, so what it makes of an empty label is up to
it.  The built-in ones make nothing of it.

* `RefinementRegistry.IgnoresEmptyLabels`, `ignoresEmptyLabels_builtin`: what is asked of refinements;
* `Node.fieldFindings_tidy` and its like: what is said of one node;
* `Snapshot.analyzeReachability_tidy`, `Snapshot.detectCycle_tidy` and the others: each check;
* `Gate.localFindings_tidy`: **a run on the tidied graph is the run on the graph.**
-/
import WorkflowGate.Gate
import WorkflowGate.Proofs.Check.Missing
import WorkflowGate.Proofs.Graph.Tidy

namespace WorkflowGate

/-! ## 1. Refinements -/

/-- Every refinement says the same of a node whose label is empty and of one without a label. -/
def RefinementRegistry.IgnoresEmptyLabels (g : RefinementRegistry) : Prop :=
  ∀ kind, ∀ r ∈ g.forKind kind, ∀ (n : Node) (schema : Option KindSchema),
    r.check n.tidy schema = r.check n schema

namespace Refinement

@[simp] theorem requireField_tidy (code : Code) (what rest : String) (field : Text) (n : Node) :
    requireField code what rest field n.tidy = requireField code what rest field n := by
  simp [requireField]

theorem run_tidy {r : Refinement} {n : Node} {schema : Option KindSchema}
    (h : r.check n.tidy schema = r.check n schema) : r.run n.tidy schema = r.run n schema := by
  simp [run, h, failureFinding, failureRecord]

end Refinement

/-- **The built-in refinements make nothing of an empty label.** -/
theorem ignoresEmptyLabels_builtin : RefinementRegistry.builtin.IgnoresEmptyLabels := by
  intro kind r hr n schema
  rcases Refinement.builtin_cases hr with ⟨-, rfl⟩ | rfl | ⟨name, code, what, rest, field, rfl⟩
  · simp [Refinement.languageModel, Refinement.temperatureFindings]
  · simp [Refinement.httpRequest]
  · simp [Refinement.requiring]

/-! ## 2. One node -/

namespace Node

variable (n : Node)

@[simp] theorem subject_tidy : n.tidy.subject = n.subject := by simp [subject]

@[simp] theorem missingField_tidy : n.tidy.missingField = n.missingField := by
  funext owned spec
  simp [missingField]

@[simp] theorem misshapen_tidy (spec : FieldSpec) (v : Value) :
    n.tidy.misshapen spec v = n.misshapen spec v := by
  simp [misshapen]

@[simp] theorem shapeFinding_tidy : n.tidy.shapeFinding = n.shapeFinding := by
  funext spec
  simp [shapeFinding]

@[simp] theorem schemaFindings_tidy (owned : List Text) (schema : KindSchema) :
    n.tidy.schemaFindings owned schema = n.schemaFindings owned schema := by
  simp [schemaFindings, missingFields]

@[simp] theorem missingCredentials_tidy (schema : KindSchema) :
    n.tidy.missingCredentials schema = n.missingCredentials schema := by
  simp [missingCredentials]

theorem refinementFindings_tidy {refinements : RefinementRegistry}
    (h : refinements.IgnoresEmptyLabels) (schema : Option KindSchema) :
    n.tidy.refinementFindings refinements schema = n.refinementFindings refinements schema := by
  -- what refinements say is recorded one after the other, whatever it is
  have hrecorded (n' : Node) : n'.refinementFindings refinements schema =
      List.flatten <$> ((refinements.forKind n'.kind).map fun r => r.run n' schema).mapM fun said => do
        let found ← Run.lift said
        Run.record found.2
        return found.1 := by
    rw [List.mapM_map, map_eq_pure_bind]
    rfl
  have hsaid : (refinements.forKind n.kind).map (fun r => r.run n.tidy schema) =
      (refinements.forKind n.kind).map fun r => r.run n schema :=
    List.map_congr_left fun r hr => Refinement.run_tidy (h n.kind r hr n schema)
  rw [hrecorded, hrecorded, kind_tidy, hsaid]

/-- **The fields of a node are judged alike** with an empty label and without one. -/
theorem fieldFindings_tidy {refinements : RefinementRegistry}
    (h : refinements.IgnoresEmptyLabels) :
    n.tidy.fieldFindings refinements = n.fieldFindings refinements := by
  simp [fieldFindings, unreadableSchema, n.refinementFindings_tidy h]

@[simp] theorem firstNumber_tidy (keys : List Text) : n.tidy.firstNumber keys = n.firstNumber keys := by
  induction keys with
  | nil => rfl
  | cons key rest ih => simp [firstNumber, ih]

@[simp] theorem declaredTimeout_tidy : n.tidy.declaredTimeout = n.declaredTimeout :=
  n.firstNumber_tidy timeoutKeys

@[simp] theorem timeoutFindings_tidy (limit : Value) :
    n.tidy.timeoutFindings limit = n.timeoutFindings limit := by
  simp [timeoutFindings, timeoutError]

@[simp] theorem estimatedSeconds_tidy (default : Value) :
    n.tidy.estimatedSeconds default = n.estimatedSeconds default := by
  simp [estimatedSeconds]

end Node

/-! ## 3. All nodes -/

/-- Picking from changed members is picking by what the change makes of them, and changing these. -/
theorem filterM_map {m : Type → Type} [Monad m] [LawfulMonad m] {α β : Type} (test : β → m Bool)
    (f : α → β) (xs : List α) : (xs.map f).filterM test = List.map f <$> xs.filterM (test ∘ f) := by
  -- The members picked so far stand in an accumulator, which is changed along with the result.
  have haux (acc : List α) : List.filterAuxM test (xs.map f) (acc.map f) =
      List.map f <$> List.filterAuxM (test ∘ f) xs acc := by
    induction xs generalizing acc with
    | nil => simp [List.filterAuxM]
    | cons x xs ih =>
      simp only [List.map_cons, List.filterAuxM, map_bind, Function.comp_apply]
      congr 1
      funext picked
      cases picked with
      | true => exact ih (x :: acc)
      | false => exact ih acc
  have hstart := haux []
  simp only [List.map_nil] at hstart
  simp [List.filterM, hstart, List.map_reverse]

/-- What is said of changed members one after the other, if the change makes nothing of it. -/
theorem mapM_of_changed {m : Type → Type} [Monad m] [LawfulMonad m] {α β γ : Type} {f : α → β}
    {say : β → m γ} {say' : α → m γ} (hsay : ∀ x, say (f x) = say' x) (xs : List α) :
    (xs.map f).mapM say = xs.mapM say' := by
  have hcomp : say ∘ f = say' := funext hsay
  rw [List.mapM_map, hcomp]

namespace Snapshot

variable (s : Snapshot)

/-- Nodes that a test picks which makes nothing of labels. -/
theorem picked_tidy {test test' : Node → Run Bool} (htest : ∀ n, test n.tidy = test' n)
    (ns : List Node) :
    (·.map Node.id) <$> (ns.map Node.tidy).filterM test = (·.map Node.id) <$> ns.filterM test' := by
  have hcomp : test ∘ Node.tidy = test' := funext htest
  simp only [filterM_map, hcomp, Functor.map_map, List.map_map]
  rfl

theorem fieldFindings_tidy {refinements : RefinementRegistry}
    (h : refinements.IgnoresEmptyLabels) :
    s.tidy.fieldFindings refinements = s.fieldFindings refinements := by
  rw [fieldFindings, nodeList_tidy, mapM_of_changed fun n => ?_, fieldFindings]
  rw [n.kind_tidy, n.fieldFindings_tidy h]

@[simp] theorem credentialFindings_tidy : s.tidy.credentialFindings = s.credentialFindings := by
  rw [credentialFindings, nodeList_tidy, mapM_of_changed fun n => ?_, credentialFindings]
  simp only [Node.kind_tidy, Node.missingCredentials_tidy]

@[simp] theorem timeoutFindings_tidy (settings : Settings) :
    s.tidy.timeoutFindings settings = s.timeoutFindings settings := by
  rw [timeoutFindings, nodeList_tidy, mapM_of_changed fun n => n.timeoutFindings_tidy _,
    timeoutFindings]

/-! ## 4. Cycles -/

theorem errorEdgeIds_tidy : s.tidy.errorEdgeIds = s.errorEdgeIds := by
  have hleaves : leavesErrorHandle ∘ Edge.tidy = leavesErrorHandle := by
    funext e
    simp [leavesErrorHandle]
  simp [errorEdgeIds, List.filter_map, hleaves]

/-- **The search for a cycle takes the same steps.** -/
@[simp] theorem detectCycle_tidy (ignoreErrorHandles : Bool) :
    s.tidy.detectCycle ignoreErrorHandles = s.detectCycle ignoreErrorHandles := by
  have hsteps : s.tidy.traversable ignoreErrorHandles = s.traversable ignoreErrorHandles := by
    simp [traversable, errorEdgeIds_tidy]
  have hstart : Colouring.start s.tidy = Colouring.start s := by
    simp [Colouring.start, tidy, OrderedMap.mapValues]
  simp only [detectCycle, searchCycle, hsteps, hstart, keys_tidy]

@[simp] theorem cycleFindings_tidy (report : CycleReport) :
    s.tidy.cycleFindings report = s.cycleFindings report := by
  have hmember : s.tidy.cycleMember = s.cycleMember := by
    funext id
    simp [cycleMember]
  rw [cycleFindings, cycleFindings, hmember]

/-! ## 5. Reachability -/

@[simp] theorem findTriggers_tidy : s.tidy.findTriggers = s.findTriggers := by
  rw [findTriggers, nodeList_tidy, picked_tidy fun n => by rw [n.kind_tidy], findTriggers]

@[simp] theorem findBranching_tidy : s.tidy.findBranching = s.findBranching := by
  rw [findBranching, nodeList_tidy, picked_tidy fun n => by rw [n.kind_tidy], findBranching]

@[simp] theorem isConnected_tidy (id : Text) : s.tidy.isConnected id = s.isConnected id := by
  rw [isConnected, edges_tidy, List.any_map]
  rfl

@[simp] theorem findOrphans_tidy : s.tidy.findOrphans = s.findOrphans := by
  rw [findOrphans, nodeList_tidy, picked_tidy fun n => ?_, findOrphans]
  rw [n.id_tidy, isConnected_tidy, n.kind_tidy, n.parentId_tidy]

@[simp] theorem classify_tidy (triggers branching : List Text) :
    s.tidy.classify triggers branching = s.classify triggers branching := by
  have hfed : s.tidy.fedByBranches branching = s.fedByBranches branching := by
    funext id
    simp only [fedByBranches, edgesTo_tidy, List.isEmpty_map, List.all_map]
    rfl
  simp [classify, reachedFrom, hfed]

/-- **The nodes are sorted alike.** -/
@[simp] theorem analyzeReachability_tidy : s.tidy.analyzeReachability = s.analyzeReachability := by
  simp [analyzeReachability]

@[simp] theorem triggerFindings_tidy : s.tidy.triggerFindings = s.triggerFindings := by
  have hadvice : s.tidy.triggerAdvice = s.triggerAdvice := by
    funext triggers
    simp only [triggerAdvice, find?_tidy, Option.any_map]
    rfl
  rw [triggerFindings, triggerFindings, hadvice, findTriggers_tidy]

@[simp] theorem reachabilityFindings_tidy (report : Reachability) (orphans : List Text) :
    s.tidy.reachabilityFindings report orphans = s.reachabilityFindings report orphans := by
  simp [reachabilityFindings]

@[simp] theorem orphanFindings_tidy (orphans : List Text) :
    s.tidy.orphanFindings orphans = s.orphanFindings orphans := by
  simp [orphanFindings]

/-! ## 6. Advice -/

@[simp] theorem estimateRuntime_tidy (settings : Settings) :
    s.tidy.estimateRuntime settings = s.estimateRuntime settings := by
  simp [estimateRuntime, List.foldlM_map]

@[simp] theorem complexityFindings_tidy (settings : Settings) (maxNestingDepth : Value) :
    s.tidy.complexityFindings settings maxNestingDepth =
      s.complexityFindings settings maxNestingDepth := by
  have hcategories : (s.nodeList.map Node.tidy).mapM (fun n => Run.categoryOf n.kind) =
      s.nodeList.mapM fun n => Run.categoryOf n.kind :=
    mapM_of_changed (fun n => rfl) s.nodeList
  simp [complexityFindings, adviseSize, advice, adviseRuntime, hcategories]

/-! ## 7. Branches and handles -/

/-- Only handles that are named are read. -/
@[simp] theorem handlesOut_tidy (id : Text) : s.tidy.handlesOut id = s.handlesOut id := by
  simp [handlesOut, List.filterMap_map]

@[simp] theorem branchFindings_tidy : s.tidy.branchFindings = s.branchFindings := by
  rw [branchFindings, nodeList_tidy, mapM_of_changed fun n => ?_, branchFindings]
  simp [branchFindingsOf, ifFindings, outcomeFindings, switchFindings]

/-- An end of an edge attaches to its handle if that is named. -/
theorem endFindings_tidy (id : Text) {handle handle' : Option Text}
    (h : Edge.namedHandle handle' = Edge.namedHandle handle)
    (declared : KindSchema → Option (List Text)) (code : Code) (edgeTo what : String) :
    s.tidy.endFindings id handle' declared code edgeTo what =
      s.endFindings id handle declared code edgeTo what := by
  simp only [endFindings, find?_tidy, h]
  cases s.nodes.find? id with
  | none => rfl
  | some n =>
    cases Edge.namedHandle handle with
    | none => rfl
    | some h => simp [handleFinding]

@[simp] theorem handleFindings_tidy : s.tidy.handleFindings = s.handleFindings := by
  rw [handleFindings, edges_tidy, mapM_of_changed fun e => ?_, handleFindings]
  rw [handleFindingsOf, handleFindingsOf,
    s.endFindings_tidy _ e.namedHandle_sourceHandle_tidy,
    s.endFindings_tidy _ e.namedHandle_targetHandle_tidy]
  rfl

end Snapshot

/-! ## 8. The whole run -/

namespace Gate

/-- **A run on the tidied graph is the run on the graph**: it finds the same, asks for the same schemas
in the same order and writes the same records. -/
theorem localFindings_tidy {g : Gate} (h : g.refinements.IgnoresEmptyLabels) (o : Options)
    (s : Snapshot) : g.localFindings o s.tidy = g.localFindings o s := by
  simp [localFindings, cycleFindings, connectionFindings, credentialFindings,
    s.fieldFindings_tidy h]

end Gate

end WorkflowGate
