/-
# What a run finds, item by item

Where the lookup answers a kind the same way each time, what a run finds is a function of the canvas, the
gate, the options and the table of answers, check by check and finding by finding.  Nothing is left of
the order in which kinds are resolved, nor of what one check leaves for the next.  Runs that differ in an
option or in the order of the canvas can therefore be compared list by list.

* `Snapshot.Answered`: every kind on the canvas has an answer, as after any run that has ended;
* `Gate.Itemizes`: the list of each check;
* `Gate.itemizes_of_execute`: these lists are what the checks come to;
* `Gate.exists_itemizes`: **the report of a run without a back end holds these lists**, one after the
  other.
-/
import WorkflowGate.Proofs.Checks

namespace WorkflowGate

open Result Run

/-! ## 1. Schemas and categories -/

namespace Resolver

variable {registry : Registry} {answers : Text → Except Fault Loaded} {kind : Text}

/-- The schema of a kind by a table of answers; a kind without an answer has none. -/
def schemaBy (answers : Text → Except Fault Loaded) (kind : Text) : Option KindSchema :=
  (schemaFor answers kind).toOption.join

/-- The category of a kind by a table of answers. -/
def categoryBy (registry : Registry) (answers : Text → Except Fault Loaded) (kind : Text) :
    KindCategory :=
  ((schemaBy answers kind).map (·.category)).getD (registry.categoryOf kind)

theorem schemaFor_eq_ok (h : kind.isEmpty = false → Succeeds (answers kind)) :
    schemaFor answers kind = .ok (schemaBy answers kind) := by
  have hsome : Succeeds (schemaFor answers kind) := by
    unfold schemaFor
    cases hkind : kind.isEmpty with
    | true => exact succeeds_ok none
    | false => exact succeeds_map_iff.mpr (h hkind)
  obtain ⟨schema, hschema⟩ := hsome
  rw [schemaBy, hschema]
  rfl

theorem categoryFor_eq_ok (h : kind.isEmpty = false → Succeeds (answers kind)) :
    categoryFor registry answers kind = .ok (categoryBy registry answers kind) := by
  rw [categoryFor, schemaFor_eq_ok h]
  rfl

end Resolver

open Resolver

variable {registry : Registry} {answers : Text → Except Fault Loaded}

/-! ## 2. One check after the other -/

namespace Snapshot

variable {s : Snapshot}

/-- Every kind that a node has is answered. -/
def Answered (s : Snapshot) (answers : Text → Except Fault Loaded) : Prop :=
  ∀ n ∈ s.nodeList, n.kind.isEmpty = false → Succeeds (answers n.kind)

theorem Answered.computes_resolve (h : s.Answered answers) {n : Node} (hn : n ∈ s.nodeList) :
    Computes registry answers (resolve n.kind) (.ok (schemaBy answers n.kind)) := by
  rw [← schemaFor_eq_ok (h n hn)]
  exact Run.computes_resolve n.kind

theorem Answered.computes_categoryOf (h : s.Answered answers) {n : Node} (hn : n ∈ s.nodeList) :
    Computes registry answers (categoryOf n.kind) (.ok (categoryBy registry answers n.kind)) := by
  rw [← categoryFor_eq_ok (h n hn)]
  exact Run.computes_categoryOf n.kind

theorem Answered.computes_nodesOf (h : s.Answered answers) (category : KindCategory) :
    Computes registry answers
      ((·.map Node.id) <$> s.nodeList.filterM fun n => do return (← categoryOf n.kind) = category)
      (.ok (s.nodesOf (categoryBy registry answers) category)) :=
  s.computes_nodesOf (fun _ hn => h.computes_categoryOf hn) category

theorem Answered.computes_analyzeReachability (h : s.Answered answers) :
    Computes registry answers s.analyzeReachability
      (s.classify (s.nodesOf (categoryBy registry answers) .trigger)
        (s.nodesOf (categoryBy registry answers) .controlFlow)) := by
  refine (h.computes_nodesOf .trigger).bind_ok ?_
  split
  next hnone =>
    rw [List.isEmpty_iff] at hnone
    rw [hnone, classify_without_triggers, classify_without_triggers]
    exact computes_pure _
  next =>
    refine (h.computes_nodesOf .controlFlow).bind_ok ?_
    have hreport (sorted : Except Fault Reachability) : Computes registry answers
        (do
          let report ← lift sorted
          record [reachabilityRecord report]
          return report)
        (sorted >>= pure) :=
      (computes_lift sorted).bind fun report => (computes_record _).bind_ok (computes_pure report)
    have hsorted := hreport (s.classify (s.nodesOf (categoryBy registry answers) .trigger)
      (s.nodesOf (categoryBy registry answers) .controlFlow))
    rwa [bind_pure] at hsorted

theorem Answered.computes_findOrphans (h : s.Answered answers) :
    Computes registry answers s.findOrphans
      (.ok (s.orphansOf (categoryBy registry answers))) := by
  have htest (n : Node) (hn : n ∈ s.nodeList) :
      Computes registry answers
        (if s.isConnected n.id then pure false
          else return !(← isTrigger n.kind) && n.parentId.isNone : Run Bool)
        (.ok (s.isOrphan (categoryBy registry answers) n)) := by
    unfold isOrphan
    cases hconnected : s.isConnected n.id with
    | true => exact computes_pure false
    | false =>
      refine Computes.bind_ok ?_ (computes_pure _)
      exact (h.computes_categoryOf hn).bind_ok (computes_pure _)
  have hfilter : Computes registry answers (s.nodeList.filterM _) _ := Computes.filterM htest
  rw [filterM_eq_ok fun n _ => rfl] at hfilter
  exact hfilter.map _

/-- The findings on the credentials of all nodes, by a table of answers. -/
def credentialFindingsBy (s : Snapshot) (answers : Text → Except Fault Loaded) : List Finding :=
  s.nodeList.flatMap fun n => ((schemaBy answers n.kind).map n.missingCredentials).getD []

theorem Answered.computes_credentialFindings (h : s.Answered answers) :
    Computes registry answers s.credentialFindings (.ok (s.credentialFindingsBy answers)) := by
  refine Computes.flatMapM_ok fun n hn => (h.computes_resolve hn).bind_ok ?_
  cases schemaBy answers n.kind with
  | some schema => exact computes_pure _
  | none => exact computes_pure _

theorem Answered.computes_complexityFindings (h : s.Answered answers) (settings : Settings)
    (maxNestingDepth : Value) :
    Computes registry answers (s.complexityFindings settings maxNestingDepth)
      (do
        let large ← s.adviseSize settings
        let advice ← s.advice (s.nodeList.map fun n => categoryBy registry answers n.kind) settings
          maxNestingDepth
        return large ++ advice) := by
  have hcategories : Computes registry answers (s.nodeList.mapM fun n => categoryOf n.kind) _ :=
    Computes.mapM fun n hn => h.computes_categoryOf hn
  rw [mapM_eq_ok fun n _ => rfl] at hcategories
  refine (computes_lift _).bind fun large => hcategories.bind_ok ?_
  exact (computes_lift _).bind fun advice => computes_pure _

theorem Answered.computes_handleFindingsOf (h : s.Answered answers) (e : Edge) :
    Computes registry answers (s.handleFindingsOf e) (.ok (s.handleFindingsBy (schemaBy answers) e)) := by
  have hend (id : Text) (handle : Option Text) (declared : KindSchema → Option (List Text))
      (code : Code) (edgeTo what : String) :
      Computes registry answers (s.endFindings id handle declared code edgeTo what)
        (.ok (s.endFindingsBy (schemaBy answers) id handle declared code edgeTo what)) := by
    unfold endFindings endFindingsBy
    cases hfind : s.nodes.find? id with
    | none => exact computes_pure []
    | some n =>
      cases Edge.namedHandle handle with
      | none => exact computes_pure []
      | some named =>
        exact (h.computes_resolve (mem_nodeList_of_find? hfind)).bind_ok (computes_pure _)
  exact (hend _ _ _ _ _ _).bind_ok ((hend _ _ _ _ _ _).bind_ok (computes_pure _))

theorem Answered.computes_handleFindings (h : s.Answered answers) :
    Computes registry answers s.handleFindings
      (.ok (s.edges.flatMap (s.handleFindingsBy (schemaBy answers)))) :=
  Computes.flatMapM_ok fun e _ => h.computes_handleFindingsOf e

end Snapshot

/-! ## 3. All checks -/

namespace Gate

variable {g : Gate} {o : Options} {s : Snapshot}

/-- **What each check of a run finds**, told from a table of answers. -/
structure Itemizes (g : Gate) (o : Options) (s : Snapshot) (registry : Registry)
    (answers : Text → Except Fault Loaded) (found : Check → List Finding) : Prop where
  input : found .input = s.findings
  triggers : found .triggers = s.triggerAdvice (s.nodesOf (categoryBy registry answers) .trigger)
  cycles : ∃ report, s.detectCycle o.ignoreErrorHandles.truthy = .ok report ∧
    found .cycles = s.cycleFindings report
  connections : ∃ report,
    s.classify (s.nodesOf (categoryBy registry answers) .trigger)
        (s.nodesOf (categoryBy registry answers) .controlFlow) = .ok report ∧
      found .connections =
        s.reachabilityFindings report (s.orphansOf (categoryBy registry answers)) ++
          s.orphanFindings (s.orphansOf (categoryBy registry answers))
  fields : List.flatten <$> s.nodeList.mapM (fun n => n.fieldFindingsBy g.refinements answers) =
    .ok (found .fields)
  credentials : found .credentials =
    if o.checkCredentials.truthy then s.credentialFindingsBy answers else []
  branches : s.branchFindings = .ok (found .branches)
  timeouts : s.timeoutFindings g.settings = .ok (found .timeouts)
  complexity : ∃ large advice, s.adviseSize g.settings = .ok large ∧
    s.advice (s.nodeList.map fun n => categoryBy registry answers n.kind) g.settings
        o.maxNestingDepth = .ok advice ∧
      found .complexity = large ++ advice
  handles : found .handles = s.edges.flatMap (s.handleFindingsBy (schemaBy answers))

/-- The check of credentials, if it is made. -/
theorem computes_credentialFindings (o : Options) (h : s.Answered answers) :
    Computes registry answers (credentialFindings o s)
      (.ok (if o.checkCredentials.truthy then s.credentialFindingsBy answers else [])) := by
  unfold credentialFindings
  cases o.checkCredentials.truthy with
  | true => exact h.computes_credentialFindings
  | false => exact computes_pure []

/-- **What the checks come to is told from the table.** -/
theorem itemizes_of_execute (h : s.Answered answers) {st st' : RunState} {own : List Finding}
    (hst : Steady registry answers st.resolver)
    (hrun : (g.localFindings o s).execute st = (.ok own, st')) :
    ∃ found, g.Itemizes o s registry answers found ∧ own = Check.all.flatMap found := by
  have hcycles : Computes registry answers (cycleFindings o s) _ :=
    (computes_lift _).bind fun report => (computes_record _).bind_ok
      (computes_pure (s.cycleFindings report))
  have hconnections : Computes registry answers (connectionFindings s) _ :=
    h.computes_analyzeReachability.bind fun report => h.computes_findOrphans.bind_ok (computes_pure _)
  have hall : Computes registry answers (g.localFindings o s) _ :=
    ((h.computes_nodesOf .trigger).map s.triggerAdvice).bind_ok <|
    hcycles.bind fun cycles => hconnections.bind fun connections =>
    (s.computes_fieldFindings g.refinements).bind fun fields =>
    (computes_credentialFindings o h).bind_ok <|
    (computes_lift s.branchFindings).bind fun branches =>
    (computes_lift (s.timeoutFindings g.settings)).bind fun timeouts =>
    (h.computes_complexityFindings g.settings o.maxNestingDepth).bind fun complexity =>
    h.computes_handleFindings.bind_ok (computes_pure _)
  obtain ⟨st'', hrun', -⟩ := hall st hst
  have hown := (Prod.mk.inj (hrun'.symm.trans hrun)).1
  obtain ⟨cycles, hcycles, hown⟩ := bind_eq_ok_iff.mp hown
  obtain ⟨cycleReport, hcycleReport, hcycles⟩ := bind_eq_ok_iff.mp hcycles
  cases hcycles
  obtain ⟨connections, hconnections, hown⟩ := bind_eq_ok_iff.mp hown
  obtain ⟨report, hreport, hconnections⟩ := bind_eq_ok_iff.mp hconnections
  cases hconnections
  obtain ⟨fields, hfields, hown⟩ := bind_eq_ok_iff.mp hown
  obtain ⟨branches, hbranches, hown⟩ := bind_eq_ok_iff.mp hown
  obtain ⟨timeouts, htimeouts, hown⟩ := bind_eq_ok_iff.mp hown
  obtain ⟨complexity, hcomplexity, hown⟩ := bind_eq_ok_iff.mp hown
  obtain ⟨large, hlarge, hcomplexity⟩ := bind_eq_ok_iff.mp hcomplexity
  obtain ⟨advice, hadvice, hcomplexity⟩ := bind_eq_ok_iff.mp hcomplexity
  cases hcomplexity
  cases hown
  exact ⟨Check.listing s.findings _ (s.cycleFindings cycleReport) _ fields _ branches timeouts
      (large ++ advice) _,
    ⟨rfl, rfl, ⟨_, hcycleReport, rfl⟩, ⟨_, hreport, rfl⟩, hfields, rfl, hbranches, htimeouts,
      ⟨_, _, hlarge, hadvice, rfl⟩, rfl⟩, (Check.flatMap_listing ..).symm⟩

/-- **After a run that has ended every kind on the canvas has an answer.** -/
theorem answered_of_execute {st st' : RunState} {own : List Finding}
    (hst : Steady registry answers st.resolver)
    (hrun : (g.localFindings o s).execute st = (.ok own, st')) : s.Answered answers := by
  obtain ⟨hextends, htold⟩ := (g.yields_localFindings o s : Yields st'.resolver _ _) _ _ _ hrun
  obtain ⟨found, hfound, -⟩ := htold (.refl _)
  intro n hn hkind
  exact hst.succeeds_of_settled hextends (hfound.fields.every n hn hkind).1 hkind

/-! ## 4. Reports -/

variable {mayWait : Bool} {nodes : Batch Node} {edges : Batch Edge} {t : Transport} {report : Report}
  {lookup : Option (Text → Except Fault LookupReply)}

/-- **The report on a canvas, item by item**, where the lookup answers a kind the same way each time and
no back end is asked. -/
theorem exists_itemizes (hlists : (nodes.isList && edges.isList) = true)
    (hs : Snapshot.ofBatches nodes edges = .ok s) (hnodes : s.isEmpty = false)
    (hlookup : o.lookup = lookup.map .ofFunction) (hunwanted : o.withBackend.truthy = false)
    (hreport : (g.validate o mayWait nodes edges t).result = .ok report) :
    ∃ found, g.Itemizes o s g.schemas (tableOf g.schemas lookup) found ∧
      report = .ofFindings (Check.all.flatMap found) := by
  obtain ⟨log, hvalidate⟩ := exists_validate_of_canvas hlists hs hnodes g o.lookup t
  have hst : Steady g.schemas (tableOf g.schemas lookup)
      ({ Run.begin g.schemas (lookup.map .ofFunction) with log := log } : RunState).resolver :=
    steady_begin_tableOf g.schemas lookup
  obtain ⟨-, hvalidate⟩ := hvalidate o mayWait rfl
  rw [hvalidate, hlookup, g.question_of_unwanted hunwanted] at hreport
  rcases hlocal : (g.localFindings o s).execute
      { Run.begin g.schemas (lookup.map .ofFunction) with log := log } with ⟨f | own, st'⟩
  · rw [hlocal] at hreport
    cases hreport
  · rw [hlocal] at hreport
    cases hreport
    have hanswered := answered_of_execute hst hlocal
    obtain ⟨found, hfound, rfl⟩ := itemizes_of_execute hanswered hst hlocal
    exact ⟨found, hfound, rfl⟩

end Gate

end WorkflowGate
