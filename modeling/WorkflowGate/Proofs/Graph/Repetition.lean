/-
# Entries with one id

Of several entries with one id only the first decides: it is kept if it can be used, and each later
one is reported as a repetition, whether or not the first one was kept.

A node can be used as soon as it was read, so a repeated node id always stands for a node.  An edge
can be used only between nodes.  When the first edge of an id leads nowhere, a later one that could be
used is dropped all the same, and nothing stands for the id.

* `FirstDecides.filter_kept`, `FirstDecides.mem_repetition_iff`: what is kept under a name, and when a
  name is reported as repeated;
* `ofBatches_repetitions`: the repetitions that a snapshot reports, and what it holds under their ids;
* `edge_lost_behind_dangling`: an edge that is lost behind one that leads nowhere.
-/
import WorkflowGate.Proofs.Graph.Ledger

namespace WorkflowGate

/-- The node that was read, if one was. -/
def NodeReading.node? : NodeReading → Option Node
  | .node n => some n
  | _ => none

theorem NodeReading.map_id_node? (r : NodeReading) : r.node?.map Node.id = r.nodeId? := by
  cases r <;> rfl

namespace Snapshot

/-! ## 1. The first entry of a name -/

section Names

variable {ρ φ ε : Type}

/-- The names that the entries bring. -/
def namesOf (item? : ρ → Option ε) (name : ε → Text) (rs : List ρ) : List Text :=
  rs.filterMap fun r => (item? r).map name

/-- The first item with the name. -/
def firstNamed (item? : ρ → Option ε) (name : ε → Text) (id : Text) (rs : List ρ) : Option ε :=
  (rs.filterMap item?).find? fun e => name e = id

/-- **The first entry of a name decides.**  It is kept if it can be used, and each later one is a
repetition. -/
structure FirstDecides (item? : ρ → Option ε) (name : ε → Text) (usable : ε → Bool)
    (judge : List ρ → ρ → φ) (kept? : φ → Option ε) (repetition : Text → φ) : Prop where
  nothing : ∀ earlier r, item? r = none → kept? (judge earlier r) = none
  first : ∀ earlier r e, item? r = some e → name e ∉ namesOf item? name earlier →
    kept? (judge earlier r) = if usable e then some e else none
  repeats : ∀ earlier r id, judge earlier r = repetition id ↔
    (item? r).map name = some id ∧ id ∈ namesOf item? name earlier
  drops : ∀ id, kept? (repetition id) = none

variable {item? : ρ → Option ε} {name : ε → Text} {usable : ε → Bool} {judge : List ρ → ρ → φ}
  {kept? : φ → Option ε} {repetition : Text → φ}

theorem namesOf_concat (rs : List ρ) (r : ρ) :
    namesOf item? name (rs ++ [r]) = namesOf item? name rs ++ ((item? r).map name).toList := by
  cases h : item? r <;> simp [namesOf, h]

theorem firstNamed_concat (id : Text) (rs : List ρ) (r : ρ) :
    firstNamed item? name id (rs ++ [r]) =
      (firstNamed item? name id rs).or ((item? r).filter fun e => name e = id) := by
  unfold firstNamed
  rw [List.filterMap_append, List.find?_append]
  congr 1
  cases h : item? r with
  | none => simp [h]
  | some e => by_cases hid : name e = id <;> simp [h, hid, Option.filter_some]

/-- There is a first item with a name exactly when the name is brought. -/
theorem firstNamed_isSome_iff (id : Text) (rs : List ρ) :
    (firstNamed item? name id rs).isSome = true ↔ id ∈ namesOf item? name rs := by
  rw [firstNamed, List.find?_isSome, namesOf, ← List.map_filterMap, List.mem_map]
  simp only [decide_eq_true_eq]

theorem firstNamed_eq_none {id : Text} {rs : List ρ} (h : id ∉ namesOf item? name rs) :
    firstNamed item? name id rs = none :=
  Option.not_isSome_iff_eq_none.mp fun hsome => h ((firstNamed_isSome_iff id rs).mp hsome)

namespace FirstDecides

/-- **What is kept under a name is the first item with it, if that can be used.** -/
theorem filter_kept (h : FirstDecides item? name usable judge kept? repetition) (id : Text)
    (rs : List ρ) :
    ((judgeAll judge rs).filterMap kept?).filter (fun e => name e = id) =
      ((firstNamed item? name id rs).filter usable).toList := by
  -- an entry is judged by those before it, so the induction takes the last one off
  induction rs using List.reverseRecOn with
  | nil => rfl
  | append_singleton rs r ih =>
    rw [judgeAll_concat, List.filterMap_append, List.filter_append, ih, firstNamed_concat]
    cases hitem : item? r with
    | none => simp [h.nothing rs r hitem]
    | some e =>
      by_cases hearlier : name e ∈ namesOf item? name rs
      · have hagain : judge rs r = repetition (name e) :=
          (h.repeats rs r (name e)).mpr ⟨by rw [hitem]; rfl, hearlier⟩
        by_cases hid : name e = id
        · obtain ⟨first, hfirst⟩ := Option.isSome_iff_exists.mp
            ((firstNamed_isSome_iff id rs).mpr (hid ▸ hearlier))
          simp [hagain, h.drops, hfirst]
        · simp [hagain, h.drops, hid, Option.filter_some]
      · have hkept := h.first rs r e hitem hearlier
        by_cases hid : name e = id
        · rw [firstNamed_eq_none (hid ▸ hearlier)]
          cases husable : usable e <;> simp [hkept, husable, hid, Option.filter_some]
        · cases husable : usable e <;> simp [hkept, husable, hid, Option.filter_some]

/-- **A name is reported as repeated exactly when it is brought twice.** -/
theorem mem_repetition_iff (h : FirstDecides item? name usable judge kept? repetition) (id : Text)
    (rs : List ρ) :
    repetition id ∈ judgeAll judge rs ↔ 2 ≤ (namesOf item? name rs).count id := by
  induction rs using List.reverseRecOn with
  | nil => simp [judgeAll, namesOf]
  | append_singleton rs r ih =>
    have hlast : repetition id = judge rs r ↔
        (item? r).map name = some id ∧ 0 < (namesOf item? name rs).count id := by
      rw [eq_comm, h.repeats, List.count_pos_iff]
    rw [judgeAll_concat, List.mem_append, ih, List.mem_singleton, hlast, namesOf_concat,
      List.count_append]
    cases hname : (item? r).map name with
    | none => simp
    | some other =>
      by_cases hid : other = id
      · subst hid
        simp only [true_and, Option.toList_some, List.count_singleton_self]
        omega
      · simp [hid]

end FirstDecides

end Names

/-! ## 2. Nodes and edges -/

/-- The first node of an id among the readings. -/
def firstNode (id : Text) (readings : List NodeReading) : Option Node :=
  firstNamed NodeReading.node? Node.id id readings

/-- The first edge of an id among the readings. -/
def firstEdge (id : Text) (readings : List (Option Edge)) : Option Edge :=
  firstNamed (fun r => r) Edge.id id readings

theorem namesOf_nodes (readings : List NodeReading) :
    namesOf NodeReading.node? Node.id readings = readings.filterMap NodeReading.nodeId? :=
  congrArg (readings.filterMap ·) (funext NodeReading.map_id_node?)

/-- A node that was read can be used. -/
theorem firstDecides_nodes :
    FirstDecides NodeReading.node? Node.id (fun _ => true) NodeFate.due NodeFate.node?
      NodeFate.duplicate where
  nothing earlier r h := by
    cases r with
    | node n => cases h
    | unreadable => rfl
    | badConfig _ _ => rfl
  first earlier r n h hnew := by
    rw [namesOf_nodes] at hnew
    cases r with
    | node m =>
      cases h
      simp [NodeFate.due, hnew, NodeFate.node?]
    | unreadable => cases h
    | badConfig _ _ => cases h
  repeats earlier r id := by
    rw [namesOf_nodes]
    cases r with
    | node n =>
      by_cases hold : n.id ∈ earlier.filterMap NodeReading.nodeId?
      · simp only [NodeFate.due, hold, if_true, NodeFate.duplicate.injEq, NodeReading.node?,
          Option.map_some, Option.some.injEq]
        exact ⟨fun hid => ⟨hid, hid ▸ hold⟩, fun hid => hid.1⟩
      · simp only [NodeFate.due, hold, if_false, NodeReading.node?, Option.map_some,
          Option.some.injEq]
        exact iff_of_false (by simp) fun hid => hold (hid.1 ▸ hid.2)
    | unreadable => simp [NodeFate.due, NodeReading.node?]
    | badConfig _ _ => simp [NodeFate.due, NodeReading.node?]
  drops _ := rfl

/-- An edge between nodes can be used. -/
theorem firstDecides_edges (nodes : List Text) :
    FirstDecides (fun r => r) Edge.id (fun e => e.source ∈ nodes ∧ e.target ∈ nodes)
      (EdgeFate.due nodes) EdgeFate.edge? EdgeFate.duplicate where
  nothing earlier r h := by rw [h]; rfl
  first earlier r e h hnew := by
    subst h
    have hfresh : e.id ∉ earlier.filterMap (Option.map Edge.id) := hnew
    by_cases hends : e.source ∈ nodes ∧ e.target ∈ nodes <;>
      simp [EdgeFate.due, hfresh, hends, EdgeFate.edge?]
  repeats earlier r id := by
    cases r with
    | none => simp [EdgeFate.due]
    | some e =>
      by_cases hold : e.id ∈ earlier.filterMap (Option.map Edge.id)
      · simp only [EdgeFate.due, hold, if_true, EdgeFate.duplicate.injEq, Option.map_some,
          Option.some.injEq]
        exact ⟨fun hid => ⟨hid, hid ▸ hold⟩, fun hid => hid.1⟩
      · refine iff_of_false ?_ fun hid => hold (Option.some.inj hid.1 ▸ hid.2)
        simp only [EdgeFate.due, hold, if_false]
        split <;> simp
  drops _ := rfl

/-! ## 3. What is reported -/

/-- The report of a repeated node id. -/
def repeatedNode (id : Text) : Finding :=
  .warning .duplicateNodeId
    ("Duplicate node id '" ++ id ++ "'; only the first occurrence is validated") id

/-- The report of a repeated edge id. -/
def repeatedEdge (id : Text) : Finding :=
  .warning .duplicateEdgeId ("Duplicate edge id '" ++ id ++ "'; only the first occurrence is used")

theorem repeatedNode_inj {id id' : Text} : repeatedNode id = repeatedNode id' ↔ id = id' :=
  ⟨fun h => Option.some.inj (congrArg Finding.nodeId h), fun h => h ▸ rfl⟩

/-- Two reports of repeated edge ids differ in the id that their message quotes. -/
theorem repeatedEdge_inj {id id' : Text} : repeatedEdge id = repeatedEdge id' ↔ id = id' := by
  refine ⟨fun h => ?_, fun h => h ▸ rfl⟩
  have hpoints := congrArg (fun f => f.message.points) h
  simp only [repeatedEdge, Finding.warning, Text.points_append] at hpoints
  have hid := List.append_cancel_left (List.append_cancel_right hpoints)
  cases id
  exact congrArg Text.mk hid

/-- A report on a node that is about a repetition. -/
theorem mem_nodeFindings_duplicate {index : Nat} {fate : NodeFate} {f : Finding}
    (h : f ∈ nodeFindings index fate) (hcode : f.code = .duplicateNodeId) :
    ∃ id, fate = .duplicate id ∧ f = repeatedNode id := by
  cases fate with
  | accepted n =>
    rw [((Finding.mem_onlyIf _ _ _).mp h).2] at hcode
    cases hcode
  | malformed id =>
    rw [List.mem_singleton.mp h] at hcode
    cases hcode
  | duplicate id => exact ⟨id, rfl, List.mem_singleton.mp h⟩

/-- A report on an edge that is about a repetition. -/
theorem mem_edgeFindings_duplicate {index : Nat} {fate : EdgeFate} {f : Finding}
    (h : f ∈ edgeFindings index fate) (hcode : f.code = .duplicateEdgeId) :
    ∃ id, fate = .duplicate id ∧ f = repeatedEdge id := by
  cases fate with
  | accepted e => cases h
  | malformed =>
    rw [List.mem_singleton.mp h] at hcode
    cases hcode
  | duplicate id => exact ⟨id, rfl, List.mem_singleton.mp h⟩
  | dangling e noSource noTarget =>
    rcases List.mem_append.mp h with h | h <;>
      (rw [((Finding.mem_onlyIf _ _ _).mp h).2] at hcode; cases hcode)

section Reports

variable {φ : Type} {findings : Nat → φ → List Finding} {fates : List φ}

theorem exists_of_mem_numbered {f : Finding} (h : f ∈ numbered findings fates) :
    ∃ index, ∃ fate ∈ fates, f ∈ findings index fate := by
  obtain ⟨⟨fate, index⟩, hentry, hf⟩ := List.mem_flatMap.mp h
  exact ⟨index, fate, List.fst_mem_of_mem_zipIdx hentry, hf⟩

theorem mem_numbered {fate : φ} {f : Finding} (hfate : fate ∈ fates)
    (h : ∀ index, f ∈ findings index fate) : f ∈ numbered findings fates := by
  obtain ⟨index, hlt, rfl⟩ := List.mem_iff_getElem.mp hfate
  exact List.mem_flatMap.mpr ⟨(fates[index], index), List.mk_mem_zipIdx_iff_getElem?.mpr
    (List.getElem?_eq_getElem hlt), h index⟩

end Reports

namespace Balanced

variable {nodeReadings : List NodeReading} {edgeReadings : List (Option Edge)} {s : Snapshot}

/-- What a snapshot reports under the code of repeated nodes are the repetitions among its fates. -/
theorem duplicateNode_iff (h : Balanced nodeReadings edgeReadings s) {f : Finding} :
    f ∈ s.findings ∧ f.code = .duplicateNodeId ↔
      ∃ id, f = repeatedNode id ∧ NodeFate.duplicate id ∈ nodeFates nodeReadings := by
  rw [h.findings, List.mem_append]
  constructor
  · rintro ⟨hmem | hmem, hcode⟩
    · obtain ⟨index, fate, hfate, hf⟩ := exists_of_mem_numbered hmem
      obtain ⟨id, rfl, hreport⟩ := mem_nodeFindings_duplicate hf hcode
      exact ⟨id, hreport, hfate⟩
    · have hcodes := List.mem_map_of_mem (f := Finding.code) hmem
      rw [map_numbered _ map_code_edgeFindings, hcode] at hcodes
      exact absurd hcodes (EdgeFate.not_mem_codes (by decide) _)
  · rintro ⟨id, rfl, hfate⟩
    exact ⟨.inl (mem_numbered hfate fun _ => List.mem_singleton_self _), rfl⟩

theorem duplicateEdge_iff (h : Balanced nodeReadings edgeReadings s) {f : Finding} :
    f ∈ s.findings ∧ f.code = .duplicateEdgeId ↔
      ∃ id, f = repeatedEdge id ∧ EdgeFate.duplicate id ∈ edgeFates s.nodes.keys edgeReadings := by
  rw [h.findings, List.mem_append]
  constructor
  · rintro ⟨hmem | hmem, hcode⟩
    · have hcodes := List.mem_map_of_mem (f := Finding.code) hmem
      rw [map_numbered _ map_code_nodeFindings, hcode] at hcodes
      exact absurd hcodes (NodeFate.not_mem_codes (by decide) _)
    · obtain ⟨index, fate, hfate, hf⟩ := exists_of_mem_numbered hmem
      obtain ⟨id, rfl, hreport⟩ := mem_edgeFindings_duplicate hf hcode
      exact ⟨id, hreport, hfate⟩
  · rintro ⟨id, rfl, hfate⟩
    exact ⟨.inr (mem_numbered hfate fun _ => List.mem_singleton_self _), rfl⟩

/-- **A repeated node id stands for the first node that brought it.** -/
theorem nodes_of_id (h : Balanced nodeReadings edgeReadings s) (id : Text) :
    s.nodeList.filter (fun n => n.id = id) = (firstNode id nodeReadings).toList := by
  rw [h.nodes, nodeFates, firstDecides_nodes.filter_kept, firstNode]
  cases firstNamed NodeReading.node? Node.id id nodeReadings <;> rfl

/-- **An edge id stands for the first edge that brought it, if that one lies between nodes.** -/
theorem edges_of_id (h : Balanced nodeReadings edgeReadings s) (id : Text) :
    s.edges.filter (fun e => e.id = id) =
      ((firstEdge id edgeReadings).filter fun e =>
        e.source ∈ s.nodes.keys ∧ e.target ∈ s.nodes.keys).toList := by
  rw [h.edges, edgeFates, (firstDecides_edges s.nodes.keys).filter_kept, firstEdge]

/-- A node id is reported as repeated exactly when two readings bring it. -/
theorem repeatedNode_iff (h : Balanced nodeReadings edgeReadings s) (id : Text) :
    repeatedNode id ∈ s.findings ↔ 2 ≤ (nodeReadings.filterMap NodeReading.nodeId?).count id := by
  rw [← namesOf_nodes, ← firstDecides_nodes.mem_repetition_iff]
  constructor
  · intro hmem
    obtain ⟨id', heq, hfate⟩ := h.duplicateNode_iff.mp ⟨hmem, rfl⟩
    rwa [repeatedNode_inj.mp heq]
  · exact fun hfate => (h.duplicateNode_iff.mpr ⟨id, rfl, hfate⟩).1

/-- An edge id is reported as repeated exactly when two readings bring it. -/
theorem repeatedEdge_iff (h : Balanced nodeReadings edgeReadings s) (id : Text) :
    repeatedEdge id ∈ s.findings ↔ 2 ≤ (edgeReadings.filterMap (Option.map Edge.id)).count id := by
  refine Iff.trans ?_ ((firstDecides_edges s.nodes.keys).mem_repetition_iff id edgeReadings)
  constructor
  · intro hmem
    obtain ⟨id', heq, hfate⟩ := h.duplicateEdge_iff.mp ⟨hmem, rfl⟩
    rwa [repeatedEdge_inj.mp heq]
  · exact fun hfate => (h.duplicateEdge_iff.mpr ⟨id, rfl, hfate⟩).1

end Balanced

/-! ## 4. Whole canvases -/

/-- **What a snapshot holds under an id that it reports as repeated.**  It is reported when two entries
bring it.  A node id is then that of a node, the first that was read.  Under an edge id there is exactly
one edge, the first that was read, if that one lies between nodes, and none otherwise. -/
theorem ofBatches_repetitions {nodes : Batch Node} {edges : Batch Edge} {s : Snapshot}
    (h : ofBatches nodes edges = .ok s) :
    ∃ ns es nodeReadings edgeReadings,
      (nodes.toEntries = .ok ns ∧ ns.mapM Entry.readNode = .ok nodeReadings) ∧
      (edges.toEntries = .ok es ∧ es.mapM Entry.readEdge = .ok edgeReadings) ∧
      (∀ id, repeatedNode id ∈ s.findings ↔
        2 ≤ (nodeReadings.filterMap NodeReading.nodeId?).count id) ∧
      (∀ id, repeatedEdge id ∈ s.findings ↔
        2 ≤ (edgeReadings.filterMap (Option.map Edge.id)).count id) ∧
      (∀ f ∈ s.findings, f.code = .duplicateNodeId →
        ∃ id ∈ s.nodes.keys, f = repeatedNode id ∧
          ∃ first, firstNode id nodeReadings = some first ∧
            s.nodeList.filter (fun n => n.id = id) = [first]) ∧
      ∀ f ∈ s.findings, f.code = .duplicateEdgeId →
        ∃ id, f = repeatedEdge id ∧
          ∃ first, firstEdge id edgeReadings = some first ∧
            s.edges.filter (fun e => e.id = id) =
              if first.source ∈ s.nodes.keys ∧ first.target ∈ s.nodes.keys then [first] else [] := by
  obtain ⟨ns, es, nodeReadings, edgeReadings, hnodes, hedges, rfl⟩ := ofBatches_eq_ok_iff.mp h
  have hbalanced := balanced_ofReadings nodeReadings edgeReadings
  refine ⟨ns, es, nodeReadings, edgeReadings, hnodes, hedges, hbalanced.repeatedNode_iff,
    hbalanced.repeatedEdge_iff, ?_, ?_⟩
  · intro f hf hcode
    obtain ⟨id, rfl, hfate⟩ := hbalanced.duplicateNode_iff.mp ⟨hf, hcode⟩
    have htwice := (firstDecides_nodes.mem_repetition_iff id nodeReadings).mp hfate
    have hbrought : id ∈ namesOf NodeReading.node? Node.id nodeReadings :=
      List.count_pos_iff.mp (by omega)
    obtain ⟨first, hfirst⟩ := Option.isSome_iff_exists.mp ((firstNamed_isSome_iff id _).mpr hbrought)
    have hkey : id ∈ (ofReadings nodeReadings edgeReadings).nodes.keys := by
      rw [nodes_ofReadings, (nodeLedger_takeNodes nodeReadings).mem_keys, ← namesOf_nodes]
      exact hbrought
    refine ⟨id, hkey, rfl, first, hfirst, ?_⟩
    rw [hbalanced.nodes_of_id, firstNode, hfirst, Option.toList_some]
  · intro f hf hcode
    obtain ⟨id, rfl, hfate⟩ := hbalanced.duplicateEdge_iff.mp ⟨hf, hcode⟩
    have htwice := ((firstDecides_edges _).mem_repetition_iff id edgeReadings).mp hfate
    have hbrought : id ∈ namesOf (fun r : Option Edge => r) Edge.id edgeReadings :=
      List.count_pos_iff.mp (by omega)
    obtain ⟨first, hfirst⟩ := Option.isSome_iff_exists.mp ((firstNamed_isSome_iff id _).mpr hbrought)
    refine ⟨id, rfl, first, hfirst, ?_⟩
    rw [hbalanced.edges_of_id, firstEdge, hfirst]
    by_cases hends : first.source ∈ (ofReadings nodeReadings edgeReadings).nodes.keys ∧
        first.target ∈ (ofReadings nodeReadings edgeReadings).nodes.keys <;>
      simp [Option.filter_some, hends]

/-- The mixed canvas repeats the id of its trigger and that of the edge between its nodes. -/
theorem ofBatches_repetitions_mixed :
    ofBatches mixedCanvas.1 mixedCanvas.2 = .ok mixedSnapshot ∧
      repeatedNode "start" ∈ mixedSnapshot.findings ∧
      (∃ first, mixedSnapshot.nodeList.filter (fun n => n.id = ("start" : Text)) = [first]) ∧
      repeatedEdge "start->7" ∈ mixedSnapshot.findings ∧
      ∃ first, mixedSnapshot.edges.filter (fun e => e.id = ("start->7" : Text)) = [first] := by
  obtain ⟨ns, es, nodeReadings, edgeReadings, -, -, -, -, hnode, hedge⟩ :=
    ofBatches_repetitions ofBatches_mixedCanvas
  have hstart : repeatedNode "start" ∈ mixedSnapshot.findings := by decide +kernel
  have harrow : repeatedEdge "start->7" ∈ mixedSnapshot.findings := by decide +kernel
  obtain ⟨id, -, hid, firstOfNodes, -, hnodes⟩ := hnode _ hstart rfl
  obtain rfl := repeatedNode_inj.mp hid
  obtain ⟨id, hid, firstOfEdges, -, hedges⟩ := hedge _ harrow rfl
  obtain rfl := repeatedEdge_inj.mp hid
  refine ⟨ofBatches_mixedCanvas, hstart, ⟨firstOfNodes, hnodes⟩, harrow, firstOfEdges, ?_⟩
  split at hedges
  · exact hedges
  · exact absurd hedges (by decide +kernel)

/-- A trigger and a node, with two edges of one id: the first leads nowhere, the second from the one to
the other. -/
def danglingFirst : Batch Node × Batch Edge :=
  (.entries [.built ⟨"T", "manual_trigger", [], none, none⟩, .built ⟨"A", "set", [], none, none⟩],
    .entries [.built ⟨"e", "T", "ghost", none, none⟩, .built ⟨"e", "T", "A", none, none⟩])

/-- **An edge is lost behind one that leads nowhere.**  Its id is reported as repeated, but no edge of
the snapshot has it. -/
theorem edge_lost_behind_dangling :
    ∃ s, ofBatches danglingFirst.1 danglingFirst.2 = .ok s ∧ repeatedEdge "e" ∈ s.findings ∧
      s.edges.filter (fun e => e.id = ("e" : Text)) = [] := by
  refine ⟨_, rfl, ?_, ?_⟩ <;> decide +kernel

end Snapshot

end WorkflowGate
