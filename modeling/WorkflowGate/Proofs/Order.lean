/-
# The order of the input only breaks ties

Nodes and edges are handed over in lists, and every check goes through them in that order.  The order
decides in which order findings are reported, and three things more: which of several cycles is found,
hence which nodes are named on it, and how run times are rounded, which are added up one after the
other.  Everything else in a report is the same for every order, and so is the verdict.

* `Report.UpToTies`: findings that agree but for their order and for what order has a say in;
* `Gate.Itemizes.upToTies`: **each check finds the same on one graph in two orders**;
* `Gate.validate_shuffled`: **so do whole runs** on entries that can be read and whose ids differ.
-/
import WorkflowGate.Proofs.Graph.Shuffled
import WorkflowGate.Proofs.Itemized
import WorkflowGate.Proofs.Reporter

namespace WorkflowGate

open Result Run

/-! ## 1. Findings up to ties -/

/-- The codes on which the order of the input has a say. -/
def Code.tied : List Code := [.cycleDetected, .nodeInCycle, .longExecutionTime]

namespace Report

/-- **The same findings, but for their order and for what order has a say in.**  Whether there is a
cycle, and whether there is an error, order does not decide. -/
structure UpToTies (fs gs : List Finding) : Prop where
  perm : (leaveOut Code.tied fs).Perm (leaveOut Code.tied gs)
  cycle_iff : (∃ f ∈ fs, f.code = .cycleDetected) ↔ ∃ f ∈ gs, f.code = .cycleDetected
  error_iff : (∃ f ∈ fs, f.severity = .error) ↔ ∃ f ∈ gs, f.severity = .error

namespace UpToTies

variable {fs gs hs fs' gs' : List Finding}

theorem of_perm (h : fs.Perm gs) : UpToTies fs gs where
  perm := h.filter _
  cycle_iff := by simp only [h.mem_iff]
  error_iff := by simp only [h.mem_iff]

theorem trans (h : UpToTies fs gs) (h' : UpToTies gs hs) : UpToTies fs hs where
  perm := h.perm.trans h'.perm
  cycle_iff := h.cycle_iff.trans h'.cycle_iff
  error_iff := h.error_iff.trans h'.error_iff

theorem append (h : UpToTies fs gs) (h' : UpToTies fs' gs') : UpToTies (fs ++ fs') (gs ++ gs') where
  perm := by
    rw [leaveOut_append, leaveOut_append]
    exact h.perm.append h'.perm
  cycle_iff := by
    simp only [List.mem_append, or_and_right, exists_or]
    exact or_congr h.cycle_iff h'.cycle_iff
  error_iff := by
    simp only [List.mem_append, or_and_right, exists_or]
    exact or_congr h.error_iff h'.error_iff

/-- What agrees check by check agrees as a whole. -/
theorem flatMap {checks : List Check} {found found' : Check → List Finding}
    (h : ∀ check, UpToTies (found check) (found' check)) :
    UpToTies (checks.flatMap found) (checks.flatMap found') := by
  induction checks with
  | nil => exact of_perm .nil
  | cons check rest ih =>
    rw [List.flatMap_cons, List.flatMap_cons]
    exact (h check).append ih

/-- Reports show the same, and give the same verdict. -/
theorem ofFindings (h : UpToTies fs gs) :
    UpToTies (Report.ofFindings fs).all (Report.ofFindings gs).all ∧
      (Report.ofFindings fs).isValid = (Report.ofFindings gs).isValid := by
  constructor
  · exact ((of_perm (perm_all_ofFindings fs)).trans h).trans (of_perm (perm_all_ofFindings gs).symm)
  · rw [Bool.eq_iff_iff, isValid_ofFindings_iff, isValid_ofFindings_iff]
    have herrors := not_congr h.error_iff
    simp only [not_exists, not_and] at herrors
    exact herrors

end UpToTies

end Report

open Report

/-! ## 2. One graph in two orders -/

namespace Snapshot.Shuffled

variable {s s' : Snapshot}

theorem triggerAdvice_eq (h : s.Shuffled s') {triggers triggers' : List Text}
    (htriggers : triggers.Perm triggers') : s.triggerAdvice triggers = s'.triggerAdvice triggers' := by
  simp only [triggerAdvice, htriggers.any_eq, htriggers.isEmpty_eq, htriggers.length_eq, h.find?_eq]

theorem orphansOf_perm (h : s.Shuffled s') (categoryOf : Text → KindCategory) :
    (s.orphansOf categoryOf).Perm (s'.orphansOf categoryOf) := by
  have hsame : s.isOrphan categoryOf = s'.isOrphan categoryOf := by
    funext n
    simp only [isOrphan, h.isConnected_eq]
  rw [orphansOf, orphansOf, hsame]
  exact (h.nodes.filter _).map _

theorem orphanFindings_perm (h : s.Shuffled s') {orphans orphans' : List Text}
    (horphans : orphans.Perm orphans') :
    (s.orphanFindings orphans).Perm (s'.orphanFindings orphans') := by
  simp only [orphanFindings, h.displayName_eq]
  exact horphans.map _

theorem reachabilityFindings_perm (h : s.Shuffled s') {r r' : Reachability}
    (htriggers : r.triggers.Perm r'.triggers) (hunreachable : r.unreachable.Perm r'.unreachable)
    (hconditional : r.conditional.Perm r'.conditional) {orphans orphans' : List Text}
    (horphans : orphans.Perm orphans') :
    (s.reachabilityFindings r orphans).Perm (s'.reachabilityFindings r' orphans') := by
  simp only [reachabilityFindings, h.displayName_eq, htriggers.isEmpty_eq, horphans.contains_eq]
  cases r'.triggers.isEmpty with
  | true => exact .nil
  | false => exact ((hunreachable.filter _).map _).append (hconditional.map _)

/-- A node that branches has the same handles to look at. -/
theorem branchFindingsOf_eq (h : s.Shuffled s') {n : Node} (hn : n ∈ s.nodeList) :
    s.branchFindingsOf n = s'.branchFindingsOf n := by
  have hid : n.id ∈ s.nodes.keys := by
    rw [← h.consistent.map_id_nodeList]
    exact List.mem_map_of_mem hn
  have hhandles : (s.handlesOut n.id).Perm (s'.handlesOut n.id) :=
    (h.edgesFrom_perm hid).filterMap _
  simp only [branchFindingsOf, ifFindings, switchFindings, anyMentions, hhandles.any_eq]

theorem handleFindingsBy_eq (h : s.Shuffled s') (answer : Text → Option KindSchema) :
    s.handleFindingsBy answer = s'.handleFindingsBy answer := by
  funext e
  simp only [handleFindingsBy, endFindingsBy, h.find?_eq]

end Snapshot.Shuffled

/-! ## 3. Check by check -/

namespace Gate

variable {g : Gate} {o : Options} {s s' : Snapshot} {registry : Registry}
  {answers : Text → Except Fault Resolver.Loaded} {found found' : Check → List Finding}

/-- Advice never is an error, nor about cycles. -/
theorem Itemizes.of_mem_complexity (h : g.Itemizes o s registry answers found) {f : Finding}
    (hf : f ∈ found .complexity) : f.severity = .warning ∧ f.code ≠ .cycleDetected := by
  obtain ⟨large, advice, hlarge, hadvice, hcomplexity⟩ := h.complexity
  rw [hcomplexity] at hf
  rcases List.mem_append.mp hf with hf | hf
  · rw [Snapshot.eq_of_mem_adviseCount hlarge hf]
    exact ⟨rfl, fun hcode => nomatch hcode⟩
  · have hcodes : ∀ code ∈ Snapshot.adviceCodes, code ≠ .cycleDetected := by decide
    obtain ⟨code, hcode, message, rfl⟩ := s.exists_eq_of_mem_advice hadvice hf
    exact ⟨rfl, hcodes code hcode⟩

/-- Advice counts the same, but run times may be rounded otherwise. -/
theorem Itemizes.upToTies_complexity (hshuffled : s.Shuffled s')
    (h : g.Itemizes o s registry answers found) (h' : g.Itemizes o s' registry answers found') :
    UpToTies (found .complexity) (found' .complexity) where
  perm := by
    obtain ⟨large, advice, hlarge, hadvice, hcomplexity⟩ := h.complexity
    obtain ⟨large', advice', hlarge', hadvice', hcomplexity'⟩ := h'.complexity
    have hsize : s.adviseSize g.settings = s'.adviseSize g.settings := by
      simp only [Snapshot.adviseSize, hshuffled.size_eq]
    rw [← hsize, hlarge] at hlarge'
    cases hlarge'
    have hcategories := hshuffled.nodes.map fun n => Resolver.categoryBy registry answers n.kind
    have hadvices : leaveOut Code.tied advice = leaveOut Code.tied advice' := by
      refine Snapshot.leaveOut_advice hadvice hadvice' (hcategories.count_eq _) ?_ ?_
      · exact fun _ => ⟨hcategories.count_eq _, rfl⟩
      · intro hcode
        exact absurd (by decide) hcode
    rw [hcomplexity, hcomplexity', leaveOut_append, leaveOut_append, hadvices]
  cycle_iff := by
    refine iff_of_false ?_ ?_
    · rintro ⟨f, hf, hcode⟩
      exact (h.of_mem_complexity hf).2 hcode
    · rintro ⟨f, hf, hcode⟩
      exact (h'.of_mem_complexity hf).2 hcode
  error_iff := by
    refine iff_of_false ?_ ?_
    · rintro ⟨f, hf, herror⟩
      rw [(h.of_mem_complexity hf).1] at herror
      cases herror
    · rintro ⟨f, hf, herror⟩
      rw [(h'.of_mem_complexity hf).1] at herror
      cases herror

/-- There is a cycle in both orders or in neither, whichever is found. -/
theorem Itemizes.upToTies_cycles (hshuffled : s.Shuffled s')
    (h : g.Itemizes o s registry answers found) (h' : g.Itemizes o s' registry answers found') :
    UpToTies (found .cycles) (found' .cycles) := by
  obtain ⟨report, hreport, hcycles⟩ := h.cycles
  obtain ⟨report', hreport', hcycles'⟩ := h'.cycles
  have hiff {p : Finding → Prop} (hp : ∀ message first, p (.error .cycleDetected message first)) :
      (∃ f ∈ s.cycleFindings report, p f) ↔ ∃ f ∈ s'.cycleFindings report', p f := by
    rw [hshuffled.consistent.exists_mem_cycleFindings_iff hreport hp,
      hshuffled.consistent'.exists_mem_cycleFindings_iff hreport' hp]
    exact hshuffled.cyclic_iff _
  have hcodes : ∀ code ∈ Snapshot.cycleCodes, code ∈ Code.tied := by decide
  rw [hcycles, hcycles']
  constructor
  · rw [leaveOut_eq_nil fun f hf => hcodes f.code (s.code_mem_of_mem_cycleFindings hf),
      leaveOut_eq_nil fun f hf => hcodes f.code (s'.code_mem_of_mem_cycleFindings hf)]
  · exact hiff fun message first => rfl
  · exact hiff fun message first => rfl

/-- **Each check finds the same on one graph in two orders.** -/
theorem Itemizes.upToTies (hshuffled : s.Shuffled s') (hinput : s.findings.Perm s'.findings)
    (h : g.Itemizes o s registry answers found) (h' : g.Itemizes o s' registry answers found')
    (check : Check) : UpToTies (found check) (found' check) := by
  have htriggers := hshuffled.nodesOf_perm (Resolver.categoryBy registry answers) .trigger
  have hbranching := hshuffled.nodesOf_perm (Resolver.categoryBy registry answers) .controlFlow
  have horphans := hshuffled.orphansOf_perm (Resolver.categoryBy registry answers)
  cases check with
  | cycles => exact upToTies_cycles hshuffled h h'
  | complexity => exact upToTies_complexity hshuffled h h'
  | input =>
    rw [h.input, h'.input]
    exact .of_perm hinput
  | triggers =>
    rw [h.triggers, h'.triggers, hshuffled.triggerAdvice_eq htriggers]
    exact .of_perm (.refl _)
  | connections =>
    obtain ⟨report, hreport, hconnections⟩ := h.connections
    obtain ⟨report', hreport', hconnections'⟩ := h'.connections
    obtain ⟨hsame, hunreachable, hconditional⟩ := hshuffled.classify_perm
      (fun t ht => hshuffled.consistent.mem_keys_of_mem_nodesOf ht) htriggers hbranching hreport
        hreport'
    rw [hconnections, hconnections']
    refine .of_perm (.append ?_ (hshuffled.orphanFindings_perm horphans))
    exact hshuffled.reachabilityFindings_perm hsame hunreachable hconditional horphans
  | fields => exact .of_perm (perm_flatten_mapM hshuffled.nodes (fun n _ => rfl) h.fields h'.fields)
  | credentials =>
    rw [h.credentials, h'.credentials]
    refine .of_perm ?_
    split
    · exact hshuffled.nodes.flatMap fun n _ => .refl _
    · exact .nil
  | branches =>
    refine .of_perm (perm_flatten_mapM hshuffled.nodes (fun n hn => ?_) h.branches h'.branches)
    exact hshuffled.branchFindingsOf_eq hn
  | timeouts =>
    exact .of_perm (perm_flatten_mapM hshuffled.nodes (fun n _ => rfl) h.timeouts h'.timeouts)
  | handles =>
    rw [h.handles, h'.handles, hshuffled.handleFindingsBy_eq]
    exact .of_perm (hshuffled.edges.flatMap fun e _ => .refl _)

/-! ## 4. Whole runs -/

variable {lookup : Option (Text → Except Fault LookupReply)} {mayWait : Bool} {t : Transport}
  {report report' : Report}

/-- **Runs on one graph in two orders end with the same report, up to ties.** -/
theorem upToTies_of_shuffled {nodes nodes' : Batch Node} {edges edges' : Batch Edge}
    (hlists : (nodes.isList && edges.isList) = true)
    (hlists' : (nodes'.isList && edges'.isList) = true)
    (hs : Snapshot.ofBatches nodes edges = .ok s) (hs' : Snapshot.ofBatches nodes' edges' = .ok s')
    (hshuffled : s.Shuffled s') (hinput : s.findings.Perm s'.findings)
    (hlookup : o.lookup = lookup.map .ofFunction) (hunwanted : o.withBackend.truthy = false)
    (hreport : (g.validate o mayWait nodes edges t).result = .ok report)
    (hreport' : (g.validate o mayWait nodes' edges' t).result = .ok report') :
    UpToTies report.all report'.all ∧ report.isValid = report'.isValid := by
  have hsame : s.isEmpty = s'.isEmpty := by
    have hkeys := hshuffled.keys.isEmpty_eq
    simp only [OrderedMap.keys, List.isEmpty_map] at hkeys
    exact hkeys
  cases hempty : s.isEmpty with
  | true =>
    rw [report_of_empty hlists hs hempty hreport,
      report_of_empty hlists' hs' (hsame.symm.trans hempty) hreport']
    exact UpToTies.ofFindings (.of_perm (hinput.append_right _))
  | false =>
    obtain ⟨found, hfound, rfl⟩ := exists_itemizes hlists hs hempty hlookup hunwanted hreport
    obtain ⟨found', hfound', rfl⟩ :=
      exists_itemizes hlists' hs' (hsame.symm.trans hempty) hlookup hunwanted hreport'
    exact UpToTies.ofFindings (.flatMap (hfound.upToTies hshuffled hinput hfound'))

/-- **The order of the input only breaks ties.**  Of entries that can all be read and of which no two
have one id, runs in any two orders that end with reports find the same, but for the cycle that is
named and for the estimate of the run time; they find a cycle both or neither, and give one verdict.
Edges may lead nowhere.  The lookup answers a kind the same way each time, and nobody is asked. -/
theorem validate_shuffled (g : Gate) (o : Options)
    {lookup : Option (Text → Except Fault LookupReply)} (hlookup : o.lookup = lookup.map .ofFunction)
    (hunwanted : o.withBackend.truthy = false) (mayWait : Bool) (t : Transport)
    {ns ns' : List (Entry Node)} {es es' : List (Entry Edge)} {nodes : List Node} {edges : List Edge}
    (hnodes : ns.mapM Entry.readNode = .ok (nodes.map .node))
    (hedges : es.mapM Entry.readEdge = .ok (edges.map some))
    (hnodeIds : (nodes.map Node.id).Nodup) (hedgeIds : (edges.map Edge.id).Nodup)
    (hns : ns.Perm ns') (hes : es.Perm es') {report report' : Report}
    (hreport : (g.validate o mayWait (.entries ns) (.entries es) t).result = .ok report)
    (hreport' : (g.validate o mayWait (.entries ns') (.entries es') t).result = .ok report') :
    (leaveOut [.cycleDetected, .nodeInCycle, .longExecutionTime] report.all).Perm
        (leaveOut [.cycleDetected, .nodeInCycle, .longExecutionTime] report'.all) ∧
      ((∃ f ∈ report.all, f.code = .cycleDetected) ↔
        ∃ f ∈ report'.all, f.code = .cycleDetected) ∧
      report.isValid = report'.isValid := by
  obtain ⟨nodes', hnodes', hnodesPerm⟩ := exists_mapM_of_perm hns hnodes
  obtain ⟨edges', hedges', hedgesPerm⟩ := exists_mapM_of_perm hes hedges
  obtain ⟨hshuffled, hinput⟩ :=
    Snapshot.shuffled_ofReadings hnodesPerm hedgesPerm hnodeIds hedgeIds
  obtain ⟨hties, hvalid⟩ := upToTies_of_shuffled rfl rfl (Snapshot.ofBatches_of_readable hnodes hedges)
    (Snapshot.ofBatches_of_readable hnodes' hedges') hshuffled hinput hlookup hunwanted hreport hreport'
  exact ⟨hties.perm, hties.cycle_iff, hvalid⟩

/-- Two steps that wait for each other, behind a trigger. -/
def ringNodes : List Value :=
  [.ofFields [("id", .text "start"), ("kind", .text "manual_trigger")],
   .ofFields [("id", .int 1), ("kind", .text "set")],
   .ofFields [("id", .text "2"), ("kind", .text "if")]]

/-- Their edges, and one that leads nowhere. -/
def ringEdges : List Value :=
  [.ofFields [("id", .text "begin"), ("source", .text "start"), ("target", .int 1)],
   .ofFields [("id", .text "forth"), ("source", .int 1), ("target", .text "2")],
   .ofFields [("id", .text "back"), ("source", .text "2"), ("target", .int 1)],
   .ofFields [("id", .text "out"), ("source", .text "2"), ("target", .text "ghost")]]

/-- The nodes that are read. -/
def ringNodesRead : List Node :=
  [⟨"start", "manual_trigger", [], none, none⟩, ⟨"1", "set", [], none, none⟩,
   ⟨"2", "if", [], none, none⟩]

/-- The edges that are read. -/
def ringEdgesRead : List Edge :=
  [⟨"begin", "start", "1", none, none⟩, ⟨"forth", "1", "2", none, none⟩,
   ⟨"back", "2", "1", none, none⟩, ⟨"out", "2", "ghost", none, none⟩]

/-- The ring, and the ring read backwards. -/
theorem validate_shuffled_ring : ∃ report report',
    (({} : Gate).validate {} true (.entries (ringNodes.map .raw)) (.entries (ringEdges.map .raw))
      { deliver := fun _ => .silence }).result = .ok report ∧
    (({} : Gate).validate {} true (.entries (ringNodes.reverse.map .raw))
      (.entries (ringEdges.reverse.map .raw)) { deliver := fun _ => .silence }).result =
        .ok report' ∧
    (leaveOut [.cycleDetected, .nodeInCycle, .longExecutionTime] report.all).Perm
      (leaveOut [.cycleDetected, .nodeInCycle, .longExecutionTime] report'.all) ∧
    ((∃ f ∈ report.all, f.code = .cycleDetected) ↔
      ∃ f ∈ report'.all, f.code = .cycleDetected) ∧
    report.isValid = report'.isValid := by
  have hnodes : (ringNodes.map Entry.raw).mapM Entry.readNode =
      .ok (ringNodesRead.map .node) := rfl
  have hedges : (ringEdges.map Entry.raw).mapM Entry.readEdge = .ok (ringEdgesRead.map some) := rfl
  have hnodes' : (ringNodes.reverse.map Entry.raw).mapM Entry.readNode =
      .ok (ringNodesRead.reverse.map .node) := rfl
  have hedges' : (ringEdges.reverse.map Entry.raw).mapM Entry.readEdge =
      .ok (ringEdgesRead.reverse.map some) := rfl
  obtain ⟨report, hreport⟩ := exists_report_of_blank {} {} rfl rfl Gate.usable_default rfl true
    hnodes hedges (by decide) (by decide +kernel) { deliver := fun _ => .silence }
  obtain ⟨report', hreport'⟩ := exists_report_of_blank {} {} rfl rfl Gate.usable_default rfl true
    hnodes' hedges' (by decide) (by decide +kernel) { deliver := fun _ => .silence }
  have hlookup : ({} : Options).lookup =
      (none : Option (Text → Except Fault LookupReply)).map .ofFunction := rfl
  obtain ⟨hperm, hcycle, hvalid⟩ := validate_shuffled {} {} hlookup rfl true
    { deliver := fun _ => .silence } hnodes hedges (by decide) (by decide)
    ((List.reverse_perm ringNodes).symm.map _) ((List.reverse_perm ringEdges).symm.map _) hreport
    hreport'
  exact ⟨report, report', hreport, hreport', hperm, hcycle, hvalid⟩

end Gate

end WorkflowGate
