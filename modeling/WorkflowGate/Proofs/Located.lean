/-
# Findings can be located

People follow a finding to the node that it names, and within the node to a field.  Some findings take
their ids from the nodes of the snapshot, others from edges, from the search for cycles, from a sort of
the nodes or from an entry that was left out.  All of them name a node of the snapshot, but for those on
entries that are no nodes: their ids may belong to nobody.  A field is never named without its node.

* `Snapshot.FindingsLocated.takeNode`, `Snapshot.FindingsLocated.takeEdge`: one entry more, and what is
  found on the input still names nodes that are there;
* `Snapshot.Consistent.nodes_of_detectCycle`: the nodes of a reported cycle are nodes, each once;
* `Gate.Finds.locatedIn_of_mem`: whatever a check of a run finds can be located;
* `Gate.report_locates`: **so can everything in a report**, and the findings on a cycle go together.
-/
import WorkflowGate.Proofs.Expressions
import WorkflowGate.Proofs.Reporter
import WorkflowGate.Proofs.Required

namespace WorkflowGate

open Result Run

/-- **The finding can be located**: the node that it names is one of the snapshot, unless it is about an
entry that is no node, and it names no field without a node. -/
structure Finding.LocatedIn (f : Finding) (s : Snapshot) : Prop where
  node : f.code ≠ .malformedNode → ∀ id, f.nodeId = some id → ∃ n ∈ s.nodeList, n.id = id
  field : f.fieldId.isSome = true → f.nodeId.isSome = true

namespace Finding.LocatedIn

variable {f : Finding} {s : Snapshot}

/-- A finding on a node of the snapshot. -/
theorem of_node {n : Node} (hn : n ∈ s.nodeList) (h : f.nodeId = some n.id) : f.LocatedIn s where
  node _ id hid := ⟨n, hn, Option.some.inj (h.symm.trans hid)⟩
  field _ := by rw [h, Option.isSome_some]

/-- A finding on an id of the snapshot. -/
theorem of_key {id : Text} (hs : s.Consistent) (hid : id ∈ s.nodes.keys) (h : f.nodeId = some id) :
    f.LocatedIn s := by
  rw [← hs.map_id_nodeList] at hid
  obtain ⟨n, hn, rfl⟩ := List.mem_map.mp hid
  exact of_node hn h

/-- A finding on the workflow as a whole. -/
theorem of_none (hnode : f.nodeId = none) (hfield : f.fieldId = none) : f.LocatedIn s where
  node _ id hid := by
    rw [hnode] at hid
    cases hid
  field hsome := by
    rw [hfield] at hsome
    cases hsome

end Finding.LocatedIn

/-! ## 1. Input -/

namespace Snapshot

/-- A finding on the input names a node that is there, unless its entry is no node, and no field. -/
structure FindingsLocated (s : Snapshot) : Prop where
  node : ∀ f ∈ s.findings, f.code ≠ .malformedNode → ∀ id, f.nodeId = some id → id ∈ s.nodes.keys
  field : ∀ f ∈ s.findings, f.fieldId = none

variable {s : Snapshot}

theorem nodeId_of_mem_edgeFindings {index : Nat} {fate : EdgeFate} {f : Finding}
    (hf : f ∈ edgeFindings index fate) : f.nodeId = none ∧ f.fieldId = none := by
  cases fate with
  | accepted e => cases hf
  | malformed | duplicate _ =>
    rw [List.mem_singleton.mp hf]
    exact ⟨rfl, rfl⟩
  | dangling e noSource noTarget =>
    rcases List.mem_append.mp hf with hf | hf
    · rw [((Finding.mem_onlyIf _ _ _).mp hf).2]
      exact ⟨rfl, rfl⟩
    · rw [((Finding.mem_onlyIf _ _ _).mp hf).2]
      exact ⟨rfl, rfl⟩

theorem fieldId_of_mem_nodeFindings {index : Nat} {fate : NodeFate} {f : Finding}
    (hf : f ∈ nodeFindings index fate) : f.fieldId = none := by
  cases fate with
  | accepted n =>
    rw [((Finding.mem_onlyIf _ _ _).mp hf).2]
    rfl
  | malformed _ | duplicate _ =>
    rw [List.mem_singleton.mp hf]
    rfl

/-- What is found on an entry among the nodes names the node that it brings, or the one whose id it
repeats. -/
theorem mem_keys_of_mem_nodeFindings {r : NodeReading} {index : Nat} {f : Finding}
    (hf : f ∈ nodeFindings index (s.nodeFate r)) (hcode : f.code ≠ .malformedNode) {id : Text}
    (hid : f.nodeId = some id) : id ∈ (s.takeNode (r, index)).nodes.keys := by
  rw [mem_keys_takeNode]
  cases r with
  | unreadable | badConfig _ _ =>
    rw [List.mem_singleton.mp hf] at hcode
    exact absurd rfl hcode
  | node n =>
    refine .inr ?_
    rw [NodeReading.nodeId?, ← hid, eq_comm]
    by_cases hold : s.hasNode n.id = true
    · simp only [nodeFate, hold, if_true] at hf
      rw [List.mem_singleton.mp hf]
      rfl
    · simp only [nodeFate, hold] at hf
      rw [((Finding.mem_onlyIf _ _ _).mp hf).2]
      rfl

/-- One entry more among the nodes. -/
theorem FindingsLocated.takeNode (h : s.FindingsLocated) (entry : NodeReading × Nat) :
    (s.takeNode entry).FindingsLocated := by
  obtain ⟨r, index⟩ := entry
  constructor
  · intro f hf hcode id hid
    rw [findings_takeNode] at hf
    rcases List.mem_append.mp hf with hold | hnew
    · exact (mem_keys_takeNode s r index id).mpr (.inl (h.node f hold hcode id hid))
    · exact mem_keys_of_mem_nodeFindings hnew hcode hid
  · intro f hf
    rw [findings_takeNode] at hf
    rcases List.mem_append.mp hf with hold | hnew
    · exact h.field f hold
    · exact fieldId_of_mem_nodeFindings hnew

/-- One entry more among the edges: what is found on it names no node. -/
theorem FindingsLocated.takeEdge {state : Snapshot × List Text} (h : state.1.FindingsLocated)
    (entry : Option Edge × Nat) : (Snapshot.takeEdge state entry).1.FindingsLocated := by
  obtain ⟨r, index⟩ := entry
  constructor
  · intro f hf hcode id hid
    rw [findings_takeEdge] at hf
    rw [nodes_takeEdge]
    rcases List.mem_append.mp hf with hold | hnew
    · exact h.node f hold hcode id hid
    · rw [(nodeId_of_mem_edgeFindings hnew).1] at hid
      cases hid
  · intro f hf
    rw [findings_takeEdge] at hf
    rcases List.mem_append.mp hf with hold | hnew
    · exact h.field f hold
    · exact (nodeId_of_mem_edgeFindings hnew).2

/-- **What is found on the input can be located**, whatever lies on the canvas. -/
theorem findingsLocated_ofReadings (nodes : List NodeReading) (edges : List (Option Edge)) :
    (ofReadings nodes edges).FindingsLocated := by
  have hempty : empty.FindingsLocated :=
    ⟨fun f hf => absurd hf List.not_mem_nil, fun f hf => absurd hf List.not_mem_nil⟩
  have hnodes : ∀ (entries : List (NodeReading × Nat)) (s : Snapshot), s.FindingsLocated →
      (entries.foldl Snapshot.takeNode s).FindingsLocated := by
    intro entries
    induction entries with
    | nil => exact fun s hs => hs
    | cons entry rest ih => exact fun s hs => ih _ (hs.takeNode entry)
  have hedges : ∀ (entries : List (Option Edge × Nat)) (state : Snapshot × List Text),
      state.1.FindingsLocated → (entries.foldl Snapshot.takeEdge state).1.FindingsLocated := by
    intro entries
    induction entries with
    | nil => exact fun state hs => hs
    | cons entry rest ih => exact fun state hs => ih _ (hs.takeEdge entry)
  exact hedges edges.zipIdx _ (hnodes nodes.zipIdx empty hempty)

theorem locatedIn_of_mem_findings {nodes : Batch Node} {edges : Batch Edge}
    (hs : ofBatches nodes edges = .ok s) {f : Finding} (hf : f ∈ s.findings) : f.LocatedIn s := by
  have hconsistent := consistent_of_ofBatches hs
  obtain ⟨-, -, nodeReadings, edgeReadings, -, -, rfl⟩ := ofBatches_eq_ok_iff.mp hs
  have hlocated := findingsLocated_ofReadings nodeReadings edgeReadings
  constructor
  · intro hcode id hid
    have hkey := hlocated.node f hf hcode id hid
    rw [← hconsistent.map_id_nodeList] at hkey
    exact List.mem_map.mp hkey
  · intro hsome
    rw [hlocated.field f hf] at hsome
    cases hsome

/-! ## 2. Cycles -/

/-- **The nodes of a reported cycle are nodes of the snapshot, and each of them comes once.** -/
theorem Consistent.nodes_of_detectCycle (hs : s.Consistent) {ignore : Bool} {report : CycleReport}
    (hreport : s.detectCycle ignore = .ok report) :
    report.nodes.Nodup ∧ ∀ id ∈ report.nodes, id ∈ s.nodes.keys := by
  have hsearched := hs.searched ignore
  unfold detectCycle at hreport
  generalize s.searchCycle ignore = verdict at hsearched hreport
  cases hsearched with
  | clear _ _ _ _ =>
    cases hreport
    exact ⟨List.nodup_nil, fun id hid => absurd hid List.not_mem_nil⟩
  | cycle _ _ _ hcycle =>
    cases hreport
    refine ⟨hcycle.nodes_nodup, fun id hid => ?_⟩
    -- every node of the cycle is the source of one of its edges
    obtain ⟨i, hi, rfl⟩ := List.mem_iff_getElem.mp hid
    obtain ⟨e, he, hsource, -⟩ := hcycle.exists_edge hi
    rw [List.getElem?_eq_getElem hi, Option.some_inj] at hsource
    rw [hsource]
    exact (hs.ends e ((s.mem_retained_iff ignore e).mp he).1).1

/-- What is found on a report of the search is nothing, or an error on its first node and a warning on
each. -/
theorem cycleFindings_cases (s : Snapshot) (report : CycleReport) :
    s.cycleFindings report = [] ∨ ∃ message first rest, report.nodes = first :: rest ∧
      s.cycleFindings report =
        .error .cycleDetected message (some first) :: (first :: rest).map s.cycleMember := by
  unfold cycleFindings
  split
  · exact .inl rfl
  · split
    · exact .inl rfl
    · next first rest hnodes => exact .inr ⟨_, first, rest, hnodes, rfl⟩

theorem locatedIn_of_mem_cycleFindings (hs : s.Consistent) {ignore : Bool} {report : CycleReport}
    (hreport : s.detectCycle ignore = .ok report) {f : Finding} (hf : f ∈ s.cycleFindings report) :
    f.LocatedIn s := by
  obtain ⟨-, hkeys⟩ := hs.nodes_of_detectCycle hreport
  obtain hnone | ⟨message, first, rest, hnodes, hsome⟩ := s.cycleFindings_cases report
  · rw [hnone] at hf
    cases hf
  · rw [hsome] at hf
    rw [hnodes] at hkeys
    rcases List.mem_cons.mp hf with rfl | hf
    · exact .of_key hs (hkeys first List.mem_cons_self) rfl
    · obtain ⟨id, hid, rfl⟩ := List.mem_map.mp hf
      exact .of_key hs (hkeys id hid) rfl

/-! ## 3. The other checks -/

theorem locatedIn_of_mem_triggerAdvice {triggers : List Text} {f : Finding}
    (hf : f ∈ s.triggerAdvice triggers) : f.LocatedIn s := by
  refine .of_none ?_ (s.fieldId_of_mem_triggerAdvice hf)
  simp only [triggerAdvice] at hf
  split at hf
  · rw [List.mem_singleton.mp hf]
    rfl
  · split at hf
    · rw [List.mem_singleton.mp hf]
      rfl
    · cases hf

theorem locatedIn_of_mem_reachabilityFindings (hs : s.Consistent) {branching : Text → Prop}
    {report : Reachability} (hreport : report.Sorts s branching) {orphans : List Text} {f : Finding}
    (hf : f ∈ s.reachabilityFindings report orphans) : f.LocatedIn s := by
  simp only [reachabilityFindings] at hf
  split at hf
  · cases hf
  · rcases List.mem_append.mp hf with hf | hf
    · obtain ⟨id, hid, rfl⟩ := List.mem_map.mp hf
      have hkey := hreport.unreachable_sublist.subset (List.mem_filter.mp hid).1
      exact .of_key hs hkey rfl
    · obtain ⟨id, hid, rfl⟩ := List.mem_map.mp hf
      exact .of_key hs (hreport.conditional_sublist.subset hid) rfl

theorem locatedIn_of_mem_orphanFindings {category : Text → KindCategory} {f : Finding}
    (hf : f ∈ s.orphanFindings (s.orphansOf category)) : f.LocatedIn s := by
  obtain ⟨id, hid, rfl⟩ := List.mem_map.mp hf
  obtain ⟨n, hn, rfl⟩ := List.mem_map.mp hid
  exact .of_node (List.mem_filter.mp hn).1 rfl

theorem locatedIn_of_mem_advice {categories : List KindCategory} {settings : Settings} {depth : Value}
    {found : List Finding} (h : s.advice categories settings depth = .ok found) {f : Finding}
    (hf : f ∈ found) : f.LocatedIn s := by
  obtain ⟨code, -, message, rfl⟩ := s.exists_eq_of_mem_advice h hf
  exact .of_none rfl rfl

/-- **What is found on handles is on a node whose kind has a schema.** -/
theorem exists_of_mem_handleFindingsBy {answer : Text → Option KindSchema} {e : Edge} {f : Finding}
    (hf : f ∈ s.handleFindingsBy answer e) :
    ∃ n ∈ s.nodeList, f.nodeId = some n.id ∧ (answer n.kind).isSome = true := by
  have hend {id : Text} {handle : Option Text} {declared : KindSchema → Option (List Text)}
      {code : Code} {edgeTo what : String}
      (hf : f ∈ s.endFindingsBy answer id handle declared code edgeTo what) :
      ∃ n ∈ s.nodeList, f.nodeId = some n.id ∧ (answer n.kind).isSome = true := by
    unfold endFindingsBy at hf
    split at hf
    · next n named hfind _ =>
      obtain ⟨hdeclared, rfl⟩ := (Finding.mem_onlyIf _ _ _).mp hf
      refine ⟨n, mem_nodeList_of_find? hfind, rfl, ?_⟩
      cases hanswer : answer n.kind with
      | none =>
        rw [hanswer] at hdeclared
        cases hdeclared
      | some schema => rfl
    · cases hf
  rcases List.mem_append.mp hf with hf | hf
  · exact hend hf
  · exact hend hf

end Snapshot

namespace Gate.Finds

variable {g : Gate} {o : Options} {s : Snapshot} {final : Resolver} {found : Check → List Finding}

/-- **Whatever a check finds can be located.** -/
theorem locatedIn_of_mem (h : g.Finds o s final found) {nodes : Batch Node} {edges : Batch Edge}
    (hs : Snapshot.ofBatches nodes edges = .ok s) (hrefinements : g.refinements = .builtin)
    {check : Check} {f : Finding} (hf : f ∈ found check) : f.LocatedIn s := by
  have hconsistent := Snapshot.consistent_of_ofBatches hs
  cases check with
  | input => exact Snapshot.locatedIn_of_mem_findings hs (h.input ▸ hf)
  | triggers => exact Snapshot.locatedIn_of_mem_triggerAdvice (h.triggers ▸ hf)
  | cycles =>
    obtain ⟨report, hreport, hcycles⟩ := h.cycles
    exact Snapshot.locatedIn_of_mem_cycleFindings hconsistent hreport (hcycles ▸ hf)
  | connections =>
    obtain ⟨report, hreport, hconnections⟩ := h.connections
    obtain ⟨sorted, hsorted, -, hsorts⟩ := hconsistent.classify_spec
      (s.nodesOf final.category .controlFlow)
      fun t ht => hconsistent.mem_keys_of_mem_nodesOf (ht : t ∈ s.nodesOf final.category .trigger)
    obtain rfl : sorted = report := Except.ok.inj (hsorted.symm.trans hreport)
    rw [hconnections] at hf
    rcases List.mem_append.mp hf with hf | hf
    · exact Snapshot.locatedIn_of_mem_reachabilityFindings hconsistent hsorts hf
    · exact Snapshot.locatedIn_of_mem_orphanFindings hf
  | fields =>
    obtain ⟨n, hn, rejected, part, hpart, hf⟩ := h.fields.only f hf
    rw [hrefinements] at hpart
    exact .of_node hn (Node.nodeId_of_mem_findingsBy hpart hf)
  | credentials =>
    cases ho : o.checkCredentials.truthy with
    | true =>
      obtain ⟨n, hn, schema, -, hf⟩ := (h.credentials ho).only f hf
      exact .of_node hn (Node.nodeId_of_mem_missingCredentials hf)
    | false =>
      rw [h.without_credentials ho] at hf
      cases hf
  | branches =>
    obtain ⟨n, hn, part, hpart, hf⟩ := exists_of_mem_flatten_mapM h.branches hf
    exact .of_node hn (Snapshot.nodeId_of_mem_branchFindingsOf hpart hf)
  | timeouts =>
    obtain ⟨n, hn, part, hpart, hf⟩ := exists_of_mem_flatten_mapM h.timeouts hf
    exact .of_node hn (Node.nodeId_of_mem_timeoutFindings hpart hf)
  | complexity =>
    obtain ⟨large, advice, hlarge, hadvice, hcomplexity⟩ := h.complexity
    rw [hcomplexity] at hf
    rcases List.mem_append.mp hf with hf | hf
    · rw [Snapshot.eq_of_mem_adviseCount hlarge hf]
      exact .of_none rfl rfl
    · exact Snapshot.locatedIn_of_mem_advice hadvice hf
  | handles =>
    rw [h.handles] at hf
    obtain ⟨e, -, hf⟩ := List.mem_flatMap.mp hf
    obtain ⟨n, hn, hid, -⟩ := Snapshot.exists_of_mem_handleFindingsBy hf
    exact .of_node hn hid

/-- **What a report says of cycles**: nothing, or one error and a warning for each node of the cycle, the
first of which is that of the error. -/
theorem coded_cycles (h : g.Finds o s final found) {nodes : Batch Node} {edges : Batch Edge}
    (hs : Snapshot.ofBatches nodes edges = .ok s) (hrefinements : g.refinements = .builtin)
    {report : Report} (hreport : report = .ofFindings (Check.all.flatMap found)) :
    (report.coded .cycleDetected = [] ∧ report.coded .nodeInCycle = []) ∨
      ∃ message first rest, (first :: rest).Nodup ∧
        report.coded .cycleDetected = [.error .cycleDetected message (some first)] ∧
        report.coded .nodeInCycle = (first :: rest).map s.cycleMember := by
  obtain ⟨cycle, hcycle, hfound⟩ := h.cycles
  obtain ⟨hnodup, -⟩ := (Snapshot.consistent_of_ofBatches hs).nodes_of_detectCycle hcycle
  have hcoded {code : Code} (hcode : code.check? = some .cycles) (severity : Severity)
      (hseverity : ∀ f ∈ found .cycles, f.code = code → f.severity = severity) :
      report.coded code = (found .cycles).filter fun f => f.code = code :=
    hreport ▸ Check.coded_ofFindings (fun _ _ hf => h.reportedBy_of_mem hs hrefinements hf) hcode
      severity hseverity
  obtain hnone | ⟨message, first, rest, hnodes, hsome⟩ := s.cycleFindings_cases cycle
  · rw [hfound, hnone] at hcoded
    exact .inl ⟨hcoded rfl .error fun f hf => absurd hf List.not_mem_nil,
      hcoded rfl .warning fun f hf => absurd hf List.not_mem_nil⟩
  · rw [hfound, hsome] at hcoded
    rw [hnodes] at hnodup
    have hmembers : ∀ f ∈ (first :: rest).map s.cycleMember,
        f.code = .nodeInCycle ∧ f.severity = .warning := by
      intro f hf
      obtain ⟨id, -, rfl⟩ := List.mem_map.mp hf
      exact ⟨rfl, rfl⟩
    refine .inr ⟨message, first, rest, hnodup, ?_, ?_⟩
    · rw [hcoded rfl .error ?_]
      · rw [List.filter_cons_of_pos (by rfl), List.filter_eq_nil_iff.mpr]
        intro f hf hcode
        rw [(hmembers f hf).1] at hcode
        cases hcode
      · intro f hf hcode
        rcases List.mem_cons.mp hf with rfl | hf
        · rfl
        · rw [(hmembers f hf).1] at hcode
          cases hcode
    · rw [hcoded rfl .warning ?_]
      · have hother : Code.cycleDetected ≠ .nodeInCycle := by decide
        rw [List.filter_cons_of_neg (by simp [Finding.error, hother]), List.filter_eq_self]
        exact fun f hf => decide_eq_true (hmembers f hf).1
      · intro f hf hcode
        rcases List.mem_cons.mp hf with rfl | hf
        · cases hcode
        · exact (hmembers f hf).2

end Gate.Finds

/-! ## 4. Reports -/

namespace Report

/-- **Everything in the report can be located, and the findings on a cycle go together**: there are
warnings on its nodes exactly when there is one error on the cycle, which stands at the first of them; no
two stand at one node. -/
structure Locates (r : Report) (s : Snapshot) : Prop where
  located : ∀ f ∈ r.all, f.LocatedIn s
  cycle_iff : r.coded .nodeInCycle ≠ [] ↔ (r.coded .cycleDetected).length = 1
  cycle_first : ∀ f ∈ r.coded .cycleDetected, ∃ first rest,
    r.coded .nodeInCycle = first :: rest ∧ first.nodeId.isSome = true ∧ f.nodeId = first.nodeId
  cycle_nodes : ∀ f ∈ r.coded .nodeInCycle, f.nodeId.isSome = true
  cycle_nodup : ((r.coded .nodeInCycle).map Finding.nodeId).Nodup

variable {r : Report} {s : Snapshot}

theorem Locates.of_none (hlocated : ∀ f ∈ r.all, f.LocatedIn s) (herror : r.coded .cycleDetected = [])
    (hnodes : r.coded .nodeInCycle = []) : r.Locates s where
  located := hlocated
  cycle_iff := by simp [herror, hnodes]
  cycle_first := by simp [herror]
  cycle_nodes := by simp [hnodes]
  cycle_nodup := by simp [hnodes]

theorem Locates.of_cycle (hlocated : ∀ f ∈ r.all, f.LocatedIn s) {message first : Text}
    {rest : List Text} (hnodup : (first :: rest).Nodup)
    (herror : r.coded .cycleDetected = [.error .cycleDetected message (some first)])
    (hnodes : r.coded .nodeInCycle = (first :: rest).map s.cycleMember) : r.Locates s where
  located := hlocated
  cycle_iff := by simp [herror, hnodes]
  cycle_first f hf := by
    rw [herror, List.mem_singleton] at hf
    rw [hf]
    exact ⟨_, _, hnodes, rfl, rfl⟩
  cycle_nodes f hf := by
    rw [hnodes] at hf
    obtain ⟨id, -, rfl⟩ := List.mem_map.mp hf
    rfl
  cycle_nodup := by
    rw [hnodes, List.map_map]
    exact hnodup.map (Option.some_injective Text)

end Report

namespace Gate

variable {g : Gate} {o : Options} {mayWait : Bool} {nodes : Batch Node} {edges : Batch Edge}
  {t : Transport} {report : Report}

/-- **A report on a canvas can be located in its snapshot**, whatever registry, lookup and options the run
goes by, as long as its refinements are the built-in ones and no back end is asked. -/
theorem report_locates (hlists : (nodes.isList && edges.isList) = true)
    (hrefinements : g.refinements = .builtin) (hunwanted : o.withBackend.truthy = false)
    (hreport : (g.validate o mayWait nodes edges t).result = .ok report) :
    ∃ s, Snapshot.ofBatches nodes edges = .ok s ∧ report.Locates s := by
  obtain ⟨s, hs⟩ := succeeds_ofBatches_of_stage hlists
    ((g.succeeds_validate_iff_stage hunwanted mayWait nodes edges t).mp ⟨report, hreport⟩)
  refine ⟨s, hs, ?_⟩
  cases hnodes : s.isEmpty with
  | true =>
    obtain rfl := report_of_empty hlists hs hnodes hreport
    have hall : ∀ f ∈ (Report.ofFindings (s.findings ++ [emptyFinding])).all,
        f ∈ s.findings ∨ f = emptyFinding := by
      intro f hf
      rw [(Report.perm_all_ofFindings _).mem_iff, List.mem_append, List.mem_singleton] at hf
      exact hf
    have hcodes {code : Code} (hcode : code.check? = some .cycles) :
        (Report.ofFindings (s.findings ++ [emptyFinding])).coded code = [] := by
      refine List.filter_eq_nil_iff.mpr fun f hf hsame => ?_
      rw [← of_decide_eq_true hsame] at hcode
      rcases hall f hf with hf | rfl
      · cases (Snapshot.reportedBy_of_mem_findings hs hf).symm.trans hcode
      · cases hcode
    refine .of_none (fun f hf => ?_) (hcodes rfl) (hcodes rfl)
    rcases hall f hf with hf | rfl
    · exact Snapshot.locatedIn_of_mem_findings hs hf
    · exact .of_none rfl rfl
  | false =>
    obtain ⟨-, found, more, hfound, hreport, hnone, -⟩ := exists_finds hlists hs hnodes hreport
    rw [hnone hunwanted, List.append_nil] at hreport
    have hlocated : ∀ f ∈ report.all, f.LocatedIn s := by
      intro f hf
      rw [hreport, (Report.perm_all_ofFindings _).mem_iff] at hf
      obtain ⟨check, -, hf⟩ := List.mem_flatMap.mp hf
      exact hfound.locatedIn_of_mem hs hrefinements hf
    obtain ⟨herror, hmembers⟩ | ⟨message, first, rest, hnodup, herror, hmembers⟩ :=
      hfound.coded_cycles hs hrefinements hreport
    · exact .of_none hlocated herror hmembers
    · exact .of_cycle hlocated hnodup herror hmembers

/-- A trigger, a step behind it, an entry that repeats its id and one whose form cannot be taken over. -/
def waitingNodes : List Value :=
  [.ofFields [("id", .text "start"), ("kind", .text "manual_trigger")],
   .ofFields [("id", .int 1), ("kind", .text "delay")], .ofFields [("id", .text "1")],
   .ofFields [("id", .text "form"), ("config", .mapping [(.int 1, .null)])]]

/-- The step waits for itself. -/
def waitingEdges : List Value :=
  [.ofFields [("source", .text "start"), ("target", .int 1)],
   .ofFields [("source", .int 1), ("target", .int 1)]]

/-- The graph of that canvas. -/
def waitingSnapshot : Snapshot :=
  .ofReadings
    [.node ⟨"start", "manual_trigger", [], none, none⟩, .node ⟨"1", "delay", [], none, none⟩,
      .node ⟨"1", "", [], none, none⟩, .badConfig "form" 1]
    [some ⟨"start->1", "start", "1", none, none⟩, some ⟨"1->1", "1", "1", none, none⟩]

/-- What is said of that canvas can be located in its graph. -/
theorem report_locates_waiting : ∃ report,
    (({} : Gate).validate {} true (.ofValue (.list waitingNodes)) (.ofValue (.list waitingEdges))
      { deliver := fun _ => .silence }).result = .ok report ∧ report.Locates waitingSnapshot := by
  have hs : Snapshot.ofBatches (.entries (waitingNodes.map .raw)) (.entries (waitingEdges.map .raw)) =
      .ok waitingSnapshot := rfl
  obtain ⟨report, hreport⟩ := exists_report_of_judgeable {} (o := {}) rfl rfl
    Gate.usable_default rfl true hs
    (Snapshot.judgeable_of_blank (by decide +kernel) (by decide +kernel))
    { deliver := fun _ => .silence }
  obtain ⟨s, hs', hlocates⟩ := report_locates rfl rfl rfl hreport
  obtain rfl : waitingSnapshot = s := Except.ok.inj (hs.symm.trans hs')
  exact ⟨report, hreport, hlocates⟩

end Gate

end WorkflowGate
