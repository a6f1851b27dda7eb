/-
# Every entry of a canvas is accounted for

A snapshot leaves out an entry for several reasons, and each leaves a trace among the findings.  What
becomes of an entry is decided while the snapshot grows; here it is said without the snapshot: an
entry is judged by the entries before it (`judgeAll`), and its fate is the one that is due to it
(`NodeFate.due`, `EdgeFate.due`).  The two accounts agree, so nothing that lies on a canvas is lost
without a word.

* `NodeLedger.takeNode`, `EdgeLedger.takeEdge`: one entry more, and the books still balance;
* `nodeLedger_takeNodes`, `edgeLedger_takeEdges`: so they do after each of the two loops;
* `ofBatches_accounts`: what a snapshot holds and reports, entry by entry and in numbers.
-/
import Mathlib.Data.List.Basic
import Mathlib.Data.List.Induction
import WorkflowGate.Proofs.Graph.Consistent

namespace WorkflowGate

/-- The id of the node that was read, if one was. -/
def NodeReading.nodeId? : NodeReading → Option Text
  | .node n => some n.id
  | _ => none

namespace Snapshot

/-! ## 1. Judging one after the other -/

section Judging

variable {ρ φ : Type}

/-- What becomes of the members of a list when each is judged by those before it. -/
def judgeAll (judge : List ρ → ρ → φ) (rs : List ρ) : List φ :=
  rs.zipIdx.map fun entry => judge (rs.take entry.2) entry.1

@[simp] theorem length_judgeAll (judge : List ρ → ρ → φ) (rs : List ρ) :
    (judgeAll judge rs).length = rs.length := by
  simp [judgeAll]

theorem judgeAll_concat (judge : List ρ → ρ → φ) (rs : List ρ) (r : ρ) :
    judgeAll judge (rs ++ [r]) = judgeAll judge rs ++ [judge rs r] := by
  have hearlier : rs.zipIdx.map (fun entry => judge ((rs ++ [r]).take entry.2) entry.1) =
      judgeAll judge rs := by
    refine List.map_congr_left fun entry hentry => ?_
    have hlt : entry.2 < rs.length := by simpa using List.snd_lt_add_of_mem_zipIdx hentry
    rw [List.take_append_of_le_length (Nat.le_of_lt hlt)]
  rw [← hearlier]
  simp [judgeAll, List.zipIdx_append]

theorem judgeAll_append (judge : List ρ → ρ → φ) (rs rs' : List ρ) :
    judgeAll judge (rs ++ rs') =
      judgeAll judge rs ++ judgeAll (fun earlier => judge (rs ++ earlier)) rs' := by
  induction rs' using List.reverseRecOn with
  | nil => simp [judgeAll]
  | append_singleton rs' r ih =>
    rw [← List.append_assoc, judgeAll_concat, ih, judgeAll_concat, List.append_assoc]

/-- Judges that are of one mind about the members of a list. -/
theorem judgeAll_congr {judge judge' : List ρ → ρ → φ} {rs : List ρ}
    (h : ∀ earlier, ∀ r ∈ rs, judge earlier r = judge' earlier r) :
    judgeAll judge rs = judgeAll judge' rs :=
  List.map_congr_left fun _ hentry => h _ _ (List.fst_mem_of_mem_zipIdx hentry)

/-- Members that are told apart by their names, when each has a fate of its own as long as no member in
front of it has its name. -/
theorem judgeAll_of_distinct {ε : Type} {judge : List ρ → ρ → φ} {entry : ε → ρ} {name : ε → Text}
    {fate : ε → φ} {members : List ε}
    (h : ∀ earlier : List ε, ∀ e ∈ members, name e ∉ earlier.map name →
      judge (earlier.map entry) (entry e) = fate e)
    (hnames : (members.map name).Nodup) : judgeAll judge (members.map entry) = members.map fate := by
  induction members using List.reverseRecOn with
  | nil => rfl
  | append_singleton members e ih =>
    rw [List.map_append, List.map_singleton] at hnames
    have hnew : name e ∉ members.map name := fun hmem =>
      (List.nodup_append.mp hnames).2.2 (name e) hmem (name e) List.mem_cons_self rfl
    have hold := ih (fun earlier d hd => h earlier d (List.mem_append_left _ hd))
      (List.nodup_append.mp hnames).1
    have hlast := h members e (List.mem_append_right _ List.mem_cons_self) hnew
    rw [List.map_append, List.map_singleton, judgeAll_concat, hold, hlast, List.map_append,
      List.map_singleton]

/-- Whatever came of an entry, the entry is there. -/
theorem exists_of_mem_judgeAll {judge : List ρ → ρ → φ} {rs : List ρ} {fate : φ}
    (h : fate ∈ judgeAll judge rs) : ∃ earlier, ∃ r ∈ rs, judge earlier r = fate := by
  obtain ⟨entry, hentry, hfate⟩ := List.mem_map.mp h
  exact ⟨rs.take entry.2, entry.1, List.fst_mem_of_mem_zipIdx hentry, hfate⟩

/-- The findings on all members, each with its number. -/
def numbered (findings : Nat → φ → List Finding) (fates : List φ) : List Finding :=
  fates.zipIdx.flatMap fun entry => findings entry.2 entry.1

theorem numbered_concat (findings : Nat → φ → List Finding) (fates : List φ) (fate : φ) :
    numbered findings (fates ++ [fate]) = numbered findings fates ++ findings fates.length fate := by
  simp [numbered, List.zipIdx_append]

theorem map_numbered {β : Type} (g : Finding → β) {findings : Nat → φ → List Finding}
    {of : φ → List β} (h : ∀ i fate, (findings i fate).map g = of fate) (fates : List φ) :
    (numbered findings fates).map g = fates.flatMap of := by
  unfold numbered
  rw [List.map_flatMap]
  simp only [h]
  rw [← List.flatMap_map, List.zipIdx_map_fst]

/-- Picking from the findings on all members is picking from those on each. -/
theorem filter_numbered (p : Finding → Bool) {findings : Nat → φ → List Finding}
    {of : φ → List Finding} (h : ∀ i fate, (findings i fate).filter p = of fate) (fates : List φ) :
    (numbered findings fates).filter p = fates.flatMap of := by
  unfold numbered
  rw [List.filter_flatMap]
  simp only [h]
  rw [← List.flatMap_map, List.zipIdx_map_fst]

/-- Findings that do not depend on the number of the entry. -/
theorem numbered_map {α : Type} {findings : Nat → φ → List Finding} {fate : α → φ}
    {of : α → List Finding} (h : ∀ i a, findings i (fate a) = of a) (members : List α) :
    numbered findings (members.map fate) = members.flatMap of := by
  unfold numbered
  rw [List.zipIdx_map, List.flatMap_map]
  simp only [Prod.map, h]
  rw [← List.flatMap_map, List.zipIdx_map_fst]

end Judging

/-! ## 2. What is due to a node -/

namespace NodeFate

/-- The fate that is due to an entry by the entries before it: the first node of an id is accepted,
later ones are duplicates. -/
def due (earlier : List NodeReading) : NodeReading → NodeFate
  | .unreadable => .malformed none
  | .badConfig id _ => .malformed (some id)
  | .node n => if n.id ∈ earlier.filterMap NodeReading.nodeId? then .duplicate n.id else .accepted n

/-- The node that was accepted, if one was. -/
def node? : NodeFate → Option Node
  | accepted n => some n
  | _ => none

/-- The codes under which a fate is reported. -/
def codes : NodeFate → List Code
  | accepted n => if n.kind.isEmpty then [.missingNodeKind] else []
  | malformed _ => [.malformedNode]
  | duplicate _ => [.duplicateNodeId]

/-- Of entries that are not accepted each has its one finding. -/
theorem length_eq (fates : List NodeFate) :
    fates.length = (fates.filterMap node?).length + (fates.flatMap codes).count .malformedNode +
      (fates.flatMap codes).count .duplicateNodeId := by
  induction fates with
  | nil => rfl
  | cons fate rest ih =>
    cases fate with
    | accepted n =>
      by_cases hn : n.kind.isEmpty <;> simp [node?, codes, hn, ih] <;> omega
    | malformed id => simp [List.filterMap_cons, node?, codes, ih]; omega
    | duplicate id => simp [List.filterMap_cons, node?, codes, ih]; omega

/-- No node is reported as an edge is. -/
theorem not_mem_codes {c : Code}
    (hc : c ∉ [Code.missingNodeKind, .malformedNode, .duplicateNodeId]) (fates : List NodeFate) :
    c ∉ fates.flatMap codes := by
  intro hmem
  obtain ⟨fate, -, hcode⟩ := List.mem_flatMap.mp hmem
  refine hc ?_
  cases fate with
  | accepted n =>
    by_cases hn : n.kind.isEmpty <;> simp [codes, hn] at hcode
    simp [hcode]
  | malformed id => simp [List.mem_singleton.mp hcode]
  | duplicate id => simp [List.mem_singleton.mp hcode]

end NodeFate

/-- The fates of the entries among the nodes. -/
def nodeFates (readings : List NodeReading) : List NodeFate := judgeAll NodeFate.due readings

@[simp] theorem length_nodeFates (readings : List NodeReading) :
    (nodeFates readings).length = readings.length := length_judgeAll _ _

theorem nodeFates_concat (readings : List NodeReading) (r : NodeReading) :
    nodeFates (readings ++ [r]) = nodeFates readings ++ [NodeFate.due readings r] :=
  judgeAll_concat _ _ _

/-- **Nodes are all accepted** when no id comes twice. -/
theorem nodeFates_node {nodes : List Node} (hids : (nodes.map Node.id).Nodup) :
    nodeFates (nodes.map .node) = nodes.map NodeFate.accepted := by
  refine judgeAll_of_distinct (fun earlier n _ hnew => ?_) hids
  have hearlier : (earlier.map NodeReading.node).filterMap NodeReading.nodeId? =
      earlier.map Node.id := by
    simp [List.filterMap_map, Function.comp_def, NodeReading.nodeId?]
  rw [NodeFate.due, hearlier, if_neg hnew]

theorem map_code_nodeFindings (index : Nat) (fate : NodeFate) :
    (nodeFindings index fate).map Finding.code = fate.codes := by
  cases fate with
  | accepted n => cases h : n.kind.isEmpty <;> simp [nodeFindings, kindFindings, Finding.onlyIf,
      NodeFate.codes, h, Finding.warning]
  | malformed id => rfl
  | duplicate id => rfl

/-- The findings on a kind are those of the accepted node. -/
theorem filter_nodeFindings (index : Nat) (fate : NodeFate) :
    (nodeFindings index fate).filter (fun f => f.code = .missingNodeKind) =
      fate.node?.toList.flatMap kindFindings := by
  cases fate with
  | accepted n => cases h : n.kind.isEmpty <;> simp [nodeFindings, kindFindings, Finding.onlyIf,
      NodeFate.node?, h, Finding.warning]
  | malformed id => rfl
  | duplicate id => rfl

theorem severity_of_mem_nodeFindings {index : Nat} {fate : NodeFate} {f : Finding}
    (h : f ∈ nodeFindings index fate) : f.severity = .warning := by
  cases fate with
  | accepted n =>
    rw [((Finding.mem_onlyIf _ _ _).mp h).2]
    rfl
  | malformed id => rw [List.mem_singleton.mp h]; rfl
  | duplicate id => rw [List.mem_singleton.mp h]; rfl

/-- An entry adds its findings, whatever becomes of it. -/
theorem findings_takeNode (s : Snapshot) (r : NodeReading) (index : Nat) :
    (s.takeNode (r, index)).findings = s.findings ++ nodeFindings index (s.nodeFate r) := by
  unfold takeNode
  cases s.nodeFate r <;> rfl

/-- An entry adds the node that was accepted, if one was. -/
theorem nodeList_takeNode (s : Snapshot) (r : NodeReading) (index : Nat) :
    (s.takeNode (r, index)).nodeList = s.nodeList ++ (s.nodeFate r).node?.toList := by
  unfold takeNode
  cases hfate : s.nodeFate r with
  | accepted n =>
    have hnew := ((s.nodeFate_accepted_iff r n).mp hfate).2
    exact OrderedMap.values_insert_of_not_mem n (not_mem_keys_of_hasNode hnew)
  | malformed id => exact (List.append_nil _).symm
  | duplicate id => exact (List.append_nil _).symm

/-- After an entry the ids in use are those before it and the one that it brings. -/
theorem mem_keys_takeNode (s : Snapshot) (r : NodeReading) (index : Nat) (id : Text) :
    id ∈ (s.takeNode (r, index)).nodes.keys ↔ id ∈ s.nodes.keys ∨ r.nodeId? = some id := by
  cases r with
  | node n =>
    by_cases hold : s.hasNode n.id = true
    · have hkeys : (s.takeNode (.node n, index)).nodes.keys = s.nodes.keys := by
        simp only [takeNode, nodeFate, hold, if_true]
      have hmem := (s.hasNode_iff n.id).mp hold
      rw [hkeys, NodeReading.nodeId?, Option.some.injEq]
      exact ⟨.inl, fun h => h.elim (fun h => h) fun heq => heq ▸ hmem⟩
    · have hnew : s.hasNode n.id = false := Bool.eq_false_iff.mpr hold
      have hkeys : (s.takeNode (.node n, index)).nodes.keys = s.nodes.keys ++ [n.id] := by
        rw [← keys_addNode s n hnew]
        simp only [takeNode, nodeFate, hnew]
        rfl
      rw [hkeys, NodeReading.nodeId?, Option.some.injEq, List.mem_append, List.mem_singleton]
      exact or_congr Iff.rfl eq_comm
  | unreadable => exact ⟨.inl, fun h => h.elim (fun h => h) fun heq => by cases heq⟩
  | badConfig _ _ => exact ⟨.inl, fun h => h.elim (fun h => h) fun heq => by cases heq⟩

/-- The books after the readings: the nodes and the findings are those that are due. -/
structure NodeLedger (readings : List NodeReading) (s : Snapshot) : Prop where
  mem_keys : ∀ id, id ∈ s.nodes.keys ↔ id ∈ readings.filterMap NodeReading.nodeId?
  nodes : s.nodeList = (nodeFates readings).filterMap NodeFate.node?
  findings : s.findings = numbered nodeFindings (nodeFates readings)

/-- A fate given by the snapshot is the one that is due. -/
theorem NodeLedger.nodeFate_eq {readings : List NodeReading} {s : Snapshot}
    (h : NodeLedger readings s) (r : NodeReading) : s.nodeFate r = NodeFate.due readings r := by
  cases r with
  | node n => simp only [nodeFate, NodeFate.due, hasNode_iff, h.mem_keys]
  | _ => rfl

/-- **One entry more among the nodes, and the books still balance.** -/
theorem NodeLedger.takeNode {readings : List NodeReading} {s : Snapshot}
    (h : NodeLedger readings s) (r : NodeReading) :
    NodeLedger (readings ++ [r]) (s.takeNode (r, readings.length)) where
  mem_keys id := by
    rw [mem_keys_takeNode, h.mem_keys, List.filterMap_append, List.mem_append]
    cases hid : r.nodeId? <;> simp [hid, eq_comm]
  nodes := by
    rw [nodeList_takeNode, h.nodeFate_eq, h.nodes, nodeFates_concat, List.filterMap_append]
    cases hnode : (NodeFate.due readings r).node? <;> simp [hnode]
  findings := by
    rw [findings_takeNode, h.nodeFate_eq, h.findings, nodeFates_concat, numbered_concat,
      length_nodeFates]

theorem takeNodes_concat (s : Snapshot) (readings : List NodeReading) (r : NodeReading) :
    s.takeNodes (readings ++ [r]) = (s.takeNodes readings).takeNode (r, readings.length) := by
  simp [takeNodes, List.zipIdx_append]

/-- **After all entries among the nodes the books balance.** -/
theorem nodeLedger_takeNodes (readings : List NodeReading) :
    NodeLedger readings (empty.takeNodes readings) := by
  -- the loop goes from the front, so the entry that it takes next is the last one
  induction readings using List.reverseRecOn with
  | nil => exact ⟨fun id => Iff.rfl, rfl, rfl⟩
  | append_singleton readings r ih =>
    rw [takeNodes_concat]
    exact ih.takeNode r

/-! ## 3. What is due to an edge -/

namespace EdgeFate

/-- The fate that is due to an entry by the entries before it and by the nodes: the first edge of an id
is accepted if both its ends are nodes, later ones are duplicates. -/
def due (nodes : List Text) (earlier : List (Option Edge)) : Option Edge → EdgeFate
  | none => .malformed
  | some e =>
    if e.id ∈ earlier.filterMap (Option.map Edge.id) then .duplicate e.id
    else if e.source ∈ nodes ∧ e.target ∈ nodes then .accepted e
    else .dangling e (e.source ∉ nodes) (e.target ∉ nodes)

/-- The fate of an edge whose id is new. -/
def alone (nodes : List Text) (e : Edge) : EdgeFate :=
  if e.source ∈ nodes ∧ e.target ∈ nodes then .accepted e
  else .dangling e (e.source ∉ nodes) (e.target ∉ nodes)

/-- The edge that was accepted, if one was. -/
def edge? : EdgeFate → Option Edge
  | accepted e => some e
  | _ => none

/-- Is an end of the edge missing? -/
def isDangling : EdgeFate → Bool
  | dangling _ _ _ => true
  | _ => false

/-- The codes under which a fate is reported. -/
def codes : EdgeFate → List Code
  | accepted _ => []
  | malformed => [.malformedEdge]
  | duplicate _ => [.duplicateEdgeId]
  | dangling _ noSource noTarget =>
    (if noSource then [.unknownEdgeSource] else []) ++ if noTarget then [.unknownEdgeTarget] else []

/-- Of entries that are not accepted, and have both ends, each has its one finding. -/
theorem length_eq (fates : List EdgeFate) :
    fates.length = (fates.filterMap edge?).length + (fates.flatMap codes).count .malformedEdge +
      (fates.flatMap codes).count .duplicateEdgeId + fates.countP isDangling := by
  induction fates with
  | nil => rfl
  | cons fate rest ih =>
    cases fate with
    | accepted e => simp [edge?, codes, isDangling, ih]; omega
    | malformed => simp [List.filterMap_cons, edge?, codes, isDangling, ih]; omega
    | duplicate id => simp [List.filterMap_cons, edge?, codes, isDangling, ih]; omega
    | dangling e noSource noTarget =>
      cases noSource <;> cases noTarget <;>
        simp [List.filterMap_cons, List.countP_cons, edge?, codes, isDangling, ih] <;> omega

/-- No edge is reported as a node is. -/
theorem not_mem_codes {c : Code}
    (hc : c ∉ [Code.malformedEdge, .duplicateEdgeId, .unknownEdgeSource, .unknownEdgeTarget])
    (fates : List EdgeFate) : c ∉ fates.flatMap codes := by
  intro hmem
  obtain ⟨fate, -, hcode⟩ := List.mem_flatMap.mp hmem
  refine hc ?_
  cases fate with
  | accepted e => cases hcode
  | malformed => simp [List.mem_singleton.mp hcode]
  | duplicate id => simp [List.mem_singleton.mp hcode]
  | dangling e noSource noTarget =>
    cases noSource <;> cases noTarget <;> simp [codes] at hcode ⊢ <;> simp [hcode]

end EdgeFate

/-- The fates of the entries among the edges, given the ids of the nodes. -/
def edgeFates (nodes : List Text) (readings : List (Option Edge)) : List EdgeFate :=
  judgeAll (EdgeFate.due nodes) readings

@[simp] theorem length_edgeFates (nodes : List Text) (readings : List (Option Edge)) :
    (edgeFates nodes readings).length = readings.length := length_judgeAll _ _

theorem edgeFates_concat (nodes : List Text) (readings : List (Option Edge)) (r : Option Edge) :
    edgeFates nodes (readings ++ [r]) = edgeFates nodes readings ++ [EdgeFate.due nodes readings r] :=
  judgeAll_concat _ _ _

/-- **Every edge has the fate of its own** when no id comes twice. -/
theorem edgeFates_alone (nodes : List Text) {edges : List Edge} (hids : (edges.map Edge.id).Nodup) :
    edgeFates nodes (edges.map some) = edges.map (EdgeFate.alone nodes) := by
  refine judgeAll_of_distinct (fun earlier e _ hnew => ?_) hids
  have hearlier : (earlier.map some).filterMap (Option.map Edge.id) = earlier.map Edge.id := by
    simp [List.filterMap_map]
  rw [EdgeFate.due, hearlier, if_neg hnew, EdgeFate.alone]

/-- The findings on an edge whose id is new do not depend on its place. -/
theorem edgeFindings_alone (index : Nat) (nodes : List Text) (e : Edge) :
    edgeFindings index (EdgeFate.alone nodes e) = edgeFindings 0 (EdgeFate.alone nodes e) := by
  unfold EdgeFate.alone
  split <;> rfl

theorem map_code_edgeFindings (index : Nat) (fate : EdgeFate) :
    (edgeFindings index fate).map Finding.code = fate.codes := by
  cases fate with
  | dangling e noSource noTarget => cases noSource <;> cases noTarget <;> rfl
  | _ => rfl

theorem severity_of_mem_edgeFindings {index : Nat} {fate : EdgeFate} {f : Finding}
    (h : f ∈ edgeFindings index fate) : f.severity = .warning := by
  cases fate with
  | accepted e => cases h
  | malformed => rw [List.mem_singleton.mp h]; rfl
  | duplicate id => rw [List.mem_singleton.mp h]; rfl
  | dangling e noSource noTarget =>
    rcases List.mem_append.mp h with h | h
    · rw [((Finding.mem_onlyIf _ _ _).mp h).2]; rfl
    · rw [((Finding.mem_onlyIf _ _ _).mp h).2]; rfl

/-- An entry among the edges leaves the nodes as they are. -/
theorem nodes_takeEdge (state : Snapshot × List Text) (r : Option Edge) (index : Nat) :
    (takeEdge state (r, index)).1.nodes = state.1.nodes := by
  unfold takeEdge
  cases hfate : state.1.edgeFate state.2 r <;> simp [hfate]

/-- An entry adds its findings, whatever becomes of it. -/
theorem findings_takeEdge (state : Snapshot × List Text) (r : Option Edge) (index : Nat) :
    (takeEdge state (r, index)).1.findings =
      state.1.findings ++ edgeFindings index (state.1.edgeFate state.2 r) := by
  unfold takeEdge
  cases hfate : state.1.edgeFate state.2 r <;> simp [hfate, addEdge]

/-- An entry adds the edge that was accepted, if one was. -/
theorem edges_takeEdge (state : Snapshot × List Text) (r : Option Edge) (index : Nat) :
    (takeEdge state (r, index)).1.edges =
      state.1.edges ++ (state.1.edgeFate state.2 r).edge?.toList := by
  unfold takeEdge
  cases hfate : state.1.edgeFate state.2 r <;> simp [hfate, addEdge, EdgeFate.edge?]

theorem seen_takeEdge (state : Snapshot × List Text) (r : Option Edge) (index : Nat) :
    (takeEdge state (r, index)).2 = seenAfter state.2 r := by
  unfold takeEdge
  cases hfate : state.1.edgeFate state.2 r <;> simp [hfate]

/-- The books after the readings of edges, which were opened with the snapshot of the nodes. -/
structure EdgeLedger (s : Snapshot) (readings : List (Option Edge)) (state : Snapshot × List Text) :
    Prop where
  nodes : state.1.nodes = s.nodes
  mem_seen : ∀ id, id ∈ state.2 ↔ id ∈ readings.filterMap (Option.map Edge.id)
  edges : state.1.edges = s.edges ++ (edgeFates s.nodes.keys readings).filterMap EdgeFate.edge?
  findings : state.1.findings =
    s.findings ++ numbered edgeFindings (edgeFates s.nodes.keys readings)

/-- A fate given by the snapshot is the one that is due. -/
theorem EdgeLedger.edgeFate_eq {s : Snapshot} {readings : List (Option Edge)}
    {state : Snapshot × List Text} (h : EdgeLedger s readings state) (r : Option Edge) :
    state.1.edgeFate state.2 r = EdgeFate.due s.nodes.keys readings r := by
  have hnode : ∀ id, state.1.hasNode id = decide (id ∈ s.nodes.keys) := by
    intro id
    rw [Bool.eq_iff_iff, hasNode_iff, h.nodes, decide_eq_true_iff]
  cases r with
  | none => rfl
  | some e =>
    simp only [edgeFate, EdgeFate.due, hnode, List.contains_iff_mem, h.mem_seen, Bool.and_eq_true,
      decide_eq_true_eq, decide_not]

/-- **One entry more among the edges, and the books still balance.** -/
theorem EdgeLedger.takeEdge {s : Snapshot} {readings : List (Option Edge)}
    {state : Snapshot × List Text} (h : EdgeLedger s readings state) (r : Option Edge) :
    EdgeLedger s (readings ++ [r]) (Snapshot.takeEdge state (r, readings.length)) where
  nodes := (nodes_takeEdge state r _).trans h.nodes
  mem_seen id := by
    rw [seen_takeEdge, List.filterMap_append, List.mem_append, ← h.mem_seen]
    cases r <;> simp [seenAfter, or_comm]
  edges := by
    rw [edges_takeEdge, h.edgeFate_eq, h.edges, edgeFates_concat, List.filterMap_append,
      List.append_assoc]
    cases hedge : (EdgeFate.due s.nodes.keys readings r).edge? <;> simp [hedge]
  findings := by
    rw [findings_takeEdge, h.edgeFate_eq, h.findings, edgeFates_concat, numbered_concat,
      length_edgeFates, List.append_assoc]

theorem foldl_takeEdge_concat (state : Snapshot × List Text) (readings : List (Option Edge))
    (r : Option Edge) : (readings ++ [r]).zipIdx.foldl takeEdge state =
      takeEdge (readings.zipIdx.foldl takeEdge state) (r, readings.length) := by
  simp [List.zipIdx_append]

/-- **After all entries among the edges the books balance.** -/
theorem edgeLedger_takeEdges (s : Snapshot) (readings : List (Option Edge)) :
    EdgeLedger s readings (readings.zipIdx.foldl Snapshot.takeEdge (s, [])) := by
  induction readings using List.reverseRecOn with
  | nil => exact ⟨rfl, fun id => Iff.rfl, (List.append_nil _).symm, (List.append_nil _).symm⟩
  | append_singleton readings r ih =>
    rw [foldl_takeEdge_concat]
    exact ih.takeEdge r

/-! ## 4. Whole canvases -/

/-- What a snapshot holds and reports is what is due to the entries. -/
structure Balanced (nodeReadings : List NodeReading) (edgeReadings : List (Option Edge))
    (s : Snapshot) : Prop where
  nodes : s.nodeList = (nodeFates nodeReadings).filterMap NodeFate.node?
  edges : s.edges = (edgeFates s.nodes.keys edgeReadings).filterMap EdgeFate.edge?
  findings : s.findings = numbered nodeFindings (nodeFates nodeReadings) ++
    numbered edgeFindings (edgeFates s.nodes.keys edgeReadings)

/-- The nodes of a canvas are what they were before the first edge. -/
theorem nodes_ofReadings (nodeReadings : List NodeReading) (edgeReadings : List (Option Edge)) :
    (ofReadings nodeReadings edgeReadings).nodes = (empty.takeNodes nodeReadings).nodes :=
  (edgeLedger_takeEdges (empty.takeNodes nodeReadings) edgeReadings).nodes

/-- **The books of a whole canvas balance.** -/
theorem balanced_ofReadings (nodeReadings : List NodeReading) (edgeReadings : List (Option Edge)) :
    Balanced nodeReadings edgeReadings (ofReadings nodeReadings edgeReadings) := by
  have hnodes := nodeLedger_takeNodes nodeReadings
  have hedges := edgeLedger_takeEdges (empty.takeNodes nodeReadings) edgeReadings
  refine ⟨?_, ?_, ?_⟩
  · rw [nodeList, nodes_ofReadings]
    exact hnodes.nodes
  · rw [nodes_ofReadings]
    refine hedges.edges.trans ?_
    rw [edges_takeNodes]
    rfl
  · rw [nodes_ofReadings]
    refine hedges.findings.trans ?_
    rw [hnodes.findings]

namespace Balanced

variable {nodeReadings : List NodeReading} {edgeReadings : List (Option Edge)} {s : Snapshot}

/-- Every node of a graph was read. -/
theorem node_mem (h : Balanced nodeReadings edgeReadings s) {n : Node} (hn : n ∈ s.nodeList) :
    NodeReading.node n ∈ nodeReadings := by
  rw [h.nodes] at hn
  obtain ⟨fate, hfate, hnode⟩ := List.mem_filterMap.mp hn
  obtain ⟨earlier, r, hr, rfl⟩ := exists_of_mem_judgeAll hfate
  cases r with
  | node m =>
    rw [NodeFate.due] at hnode
    split at hnode
    · cases hnode
    · cases hnode
      exact hr
  | _ => cases hnode

/-- Every edge of a graph was read. -/
theorem edge_mem (h : Balanced nodeReadings edgeReadings s) {e : Edge} (he : e ∈ s.edges) :
    some e ∈ edgeReadings := by
  rw [h.edges] at he
  obtain ⟨fate, hfate, hedge⟩ := List.mem_filterMap.mp he
  obtain ⟨earlier, r, hr, rfl⟩ := exists_of_mem_judgeAll hfate
  cases r with
  | none => cases hedge
  | some d =>
    rw [EdgeFate.due] at hedge
    split at hedge
    · cases hedge
    · split at hedge
      · cases hedge
        exact hr
      · cases hedge

/-- **Where no id comes twice, every entry is judged by itself.** -/
theorem of_distinct {nodes : List Node} {edges : List Edge}
    (h : Balanced (nodes.map .node) (edges.map some) s) (hnodes : (nodes.map Node.id).Nodup)
    (hedges : (edges.map Edge.id).Nodup) :
    s.nodeList = nodes ∧
      s.edges = edges.filterMap (fun e => (EdgeFate.alone s.nodes.keys e).edge?) ∧
      s.findings = nodes.flatMap kindFindings ++
        edges.flatMap fun e => edgeFindings 0 (EdgeFate.alone s.nodes.keys e) := by
  have hnodeFates := nodeFates_node hnodes
  have hedgeFates := edgeFates_alone s.nodes.keys hedges
  refine ⟨?_, ?_, ?_⟩
  · rw [h.nodes, hnodeFates, List.filterMap_map]
    exact List.filterMap_some
  · rw [h.edges, hedgeFates, List.filterMap_map]
    rfl
  · have hnodeFindings : numbered nodeFindings (nodes.map .accepted) =
        nodes.flatMap kindFindings := by
      refine numbered_map (fun i n => ?_) nodes
      rfl
    rw [h.findings, hnodeFates, hedgeFates, hnodeFindings,
      numbered_map (fun i e => edgeFindings_alone i s.nodes.keys e)]

/-- The codes of the findings, entry by entry. -/
theorem codes (h : Balanced nodeReadings edgeReadings s) :
    s.findings.map Finding.code = (nodeFates nodeReadings).flatMap NodeFate.codes ++
      (edgeFates s.nodes.keys edgeReadings).flatMap EdgeFate.codes := by
  rw [h.findings, List.map_append, map_numbered _ map_code_nodeFindings,
    map_numbered _ map_code_edgeFindings]

theorem severity_eq (h : Balanced nodeReadings edgeReadings s) {f : Finding} (hf : f ∈ s.findings) :
    f.severity = .warning := by
  rw [h.findings, List.mem_append] at hf
  rcases hf with hf | hf
  · obtain ⟨entry, -, hmem⟩ := List.mem_flatMap.mp hf
    exact severity_of_mem_nodeFindings hmem
  · obtain ⟨entry, -, hmem⟩ := List.mem_flatMap.mp hf
    exact severity_of_mem_edgeFindings hmem

theorem count_nodeCode (h : Balanced nodeReadings edgeReadings s) {c : Code}
    (hc : c ∉ [Code.malformedEdge, .duplicateEdgeId, .unknownEdgeSource, .unknownEdgeTarget]) :
    (s.findings.map Finding.code).count c = ((nodeFates nodeReadings).flatMap NodeFate.codes).count c := by
  rw [h.codes, List.count_append, List.count_eq_zero_of_not_mem (EdgeFate.not_mem_codes hc _),
    Nat.add_zero]

theorem count_edgeCode (h : Balanced nodeReadings edgeReadings s) {c : Code}
    (hc : c ∉ [Code.missingNodeKind, .malformedNode, .duplicateNodeId]) :
    (s.findings.map Finding.code).count c =
      ((edgeFates s.nodes.keys edgeReadings).flatMap EdgeFate.codes).count c := by
  rw [h.codes, List.count_append, List.count_eq_zero_of_not_mem (NodeFate.not_mem_codes hc _),
    Nat.zero_add]

/-- Every entry among the nodes is accepted, or it has its one finding. -/
theorem length_nodes (h : Balanced nodeReadings edgeReadings s) :
    nodeReadings.length = s.nodes.size + (s.findings.map Finding.code).count .malformedNode +
      (s.findings.map Finding.code).count .duplicateNodeId := by
  have hsize : s.nodes.size = ((nodeFates nodeReadings).filterMap NodeFate.node?).length := by
    rw [← h.nodes, nodeList, OrderedMap.values, List.length_map]
    rfl
  rw [hsize, h.count_nodeCode (by decide), h.count_nodeCode (by decide), ← NodeFate.length_eq,
    length_nodeFates]

/-- Every entry among the edges is accepted, lacks an end, or has its one finding. -/
theorem length_edges (h : Balanced nodeReadings edgeReadings s) :
    edgeReadings.length = s.edges.length + (s.findings.map Finding.code).count .malformedEdge +
      (s.findings.map Finding.code).count .duplicateEdgeId +
        (edgeFates s.nodes.keys edgeReadings).countP EdgeFate.isDangling := by
  rw [h.edges, h.count_edgeCode (by decide), h.count_edgeCode (by decide), ← EdgeFate.length_eq,
    length_edgeFates]

/-- Every accepted node without a kind has its finding, in the order of the nodes. -/
theorem filter_missingNodeKind (h : Balanced nodeReadings edgeReadings s) :
    s.findings.filter (fun f => f.code = .missingNodeKind) = s.nodeList.flatMap kindFindings := by
  have hnone : (numbered edgeFindings (edgeFates s.nodes.keys edgeReadings)).filter
      (fun f => f.code = .missingNodeKind) = [] := by
    refine List.filter_eq_nil_iff.mpr fun f hf hcode => ?_
    have hmem := List.mem_map_of_mem (f := Finding.code) hf
    rw [map_numbered _ map_code_edgeFindings, of_decide_eq_true hcode] at hmem
    exact EdgeFate.not_mem_codes (by decide) _ hmem
  rw [h.findings, List.filter_append, hnone, List.append_nil, h.nodes,
    filter_numbered _ filter_nodeFindings, List.filterMap_eq_flatMap_toList, List.flatMap_assoc]

end Balanced

/-- **Nothing that lies on a canvas is lost without a word.**  Each entry is judged by those before it;
the snapshot holds what was accepted and reports all else, as warnings in the order of the entries. -/
theorem ofBatches_accounts {nodes : Batch Node} {edges : Batch Edge} {s : Snapshot}
    (h : ofBatches nodes edges = .ok s) :
    ∃ ns es nodeReadings edgeReadings,
      (nodes.toEntries = .ok ns ∧ ns.mapM Entry.readNode = .ok nodeReadings) ∧
      (edges.toEntries = .ok es ∧ es.mapM Entry.readEdge = .ok edgeReadings) ∧
      s.nodeList = (nodeFates nodeReadings).filterMap NodeFate.node? ∧
      s.edges = (edgeFates s.nodes.keys edgeReadings).filterMap EdgeFate.edge? ∧
      s.findings = numbered nodeFindings (nodeFates nodeReadings) ++
        numbered edgeFindings (edgeFates s.nodes.keys edgeReadings) ∧
      s.findings.map Finding.code = (nodeFates nodeReadings).flatMap NodeFate.codes ++
        (edgeFates s.nodes.keys edgeReadings).flatMap EdgeFate.codes ∧
      (∀ f ∈ s.findings, f.severity = .warning) ∧
      s.findings.filter (fun f => f.code = .missingNodeKind) = s.nodeList.flatMap kindFindings ∧
      ns.length = s.nodes.size + (s.findings.map Finding.code).count .malformedNode +
        (s.findings.map Finding.code).count .duplicateNodeId ∧
      es.length = s.edges.length + (s.findings.map Finding.code).count .malformedEdge +
        (s.findings.map Finding.code).count .duplicateEdgeId +
          (edgeFates s.nodes.keys edgeReadings).countP EdgeFate.isDangling := by
  obtain ⟨ns, es, nodeReadings, edgeReadings, hnodes, hedges, rfl⟩ := ofBatches_eq_ok_iff.mp h
  have hbalanced := balanced_ofReadings nodeReadings edgeReadings
  refine ⟨ns, es, nodeReadings, edgeReadings, hnodes, hedges, hbalanced.nodes, hbalanced.edges,
    hbalanced.findings, hbalanced.codes, fun f hf => hbalanced.severity_eq hf,
    hbalanced.filter_missingNodeKind, ?_, ?_⟩
  · rw [← Result.length_of_mapM hnodes.2]
    exact hbalanced.length_nodes
  · rw [← Result.length_of_mapM hedges.2]
    exact hbalanced.length_edges

/-- The mixed canvas: of five entries two become nodes, of four one becomes an edge. -/
theorem ofBatches_accounts_mixed :
    ofBatches mixedCanvas.1 mixedCanvas.2 = .ok mixedSnapshot ∧
      mixedSnapshot.findings.map Finding.code =
        [.malformedNode, .missingNodeKind, .duplicateNodeId, .malformedNode, .malformedEdge,
          .duplicateEdgeId, .unknownEdgeTarget] ∧
      (∀ f ∈ mixedSnapshot.findings, f.severity = .warning) ∧
      5 = mixedSnapshot.nodes.size + (mixedSnapshot.findings.map Finding.code).count .malformedNode +
        (mixedSnapshot.findings.map Finding.code).count .duplicateNodeId := by
  obtain ⟨ns, _, _, _, ⟨hns, -⟩, -, -, -, -, -, hseverity, -, hlength, -⟩ :=
    ofBatches_accounts ofBatches_mixedCanvas
  cases hns
  exact ⟨ofBatches_mixedCanvas, rfl, hseverity, hlength⟩

end Snapshot

end WorkflowGate
