/-
# Names that name nothing

An editor writes an empty text where a label or a handle is not set, or leaves the place empty.  To
tidy a graph is to leave such names out everywhere: in its nodes, in its edges and in the edges that
its indexes list.  No id, no kind, no form and no group is touched, and no node is called anything
else.

* `displayName_tidy`, `get_tidy`: what people call a node and what its form holds stay;
* `eq_of_tidy_eq`: what makes nothing of empty names does not tell such graphs apart;
* `takeNode_tidy`, `takeEdge_tidy`: taking over a tidied entry tidies what comes of taking it over;
* `ofReadings_tidy`: **the graph of tidied readings is the tidied graph of the readings**, with the
  same findings on them.
-/
import WorkflowGate.Graph.Snapshot

namespace WorkflowGate

/-! ## 1. Maps with all their values changed -/

namespace OrderedMap

universe u v

variable {κ : Type u} {α : Type v} [DecidableEq κ]

omit [DecidableEq κ] in
@[simp] theorem values_mapValues (f : α → α) (m : OrderedMap κ α) :
    (m.mapValues fun _ => f).values = m.values.map f := by
  simp [values, mapValues, Function.comp_def]

/-- Writing a changed value is writing the value and changing it with the others. -/
theorem insert_mapValues (f : α → α) (m : OrderedMap κ α) (k : κ) (v : α) :
    (m.mapValues fun _ => f).insert k (f v) = (m.insert k v).mapValues fun _ => f := by
  refine OrderedMap.ext ?_
  simp only [insert, mapValues]
  induction m.entries with
  | nil => rfl
  | cons e rest ih =>
    obtain ⟨k', v'⟩ := e
    by_cases hk : k' = k
    · simp [insertEntry, hk]
    · simp [insertEntry, hk, ih]

/-- Two changes that can be made in either order can be made so to a value in its place. -/
theorem modify_mapValues {f g g' : α → α} (h : ∀ v, g' (f v) = f (g v)) (m : OrderedMap κ α) (k : κ) :
    (m.mapValues fun _ => f).modify k g' = (m.modify k g).mapValues fun _ => f := by
  refine OrderedMap.ext ?_
  simp only [modify, mapValues, List.map_map]
  apply List.map_congr_left
  intro e _
  by_cases hk : e.1 = k <;> simp [hk, h]

end OrderedMap

/-! ## 2. Nodes and edges -/

namespace Node

/-- The node without a label that is empty. -/
def tidy (n : Node) : Node := { n with label := n.label.filter fun t => !t.isEmpty }

variable (n : Node)

@[simp] theorem id_tidy : n.tidy.id = n.id := rfl

@[simp] theorem kind_tidy : n.tidy.kind = n.kind := rfl

@[simp] theorem parentId_tidy : n.tidy.parentId = n.parentId := rfl

@[simp] theorem get_tidy (key : Text) : n.tidy.get key = n.get key := rfl

/-- A node that is tidy stays as it is. -/
@[simp] theorem tidy_tidy : n.tidy.tidy = n.tidy := by
  simp [tidy, Option.filter_filter]

/-- **A label that is empty is not what people call the node.** -/
@[simp] theorem displayName_tidy : n.tidy.displayName = n.displayName := by
  obtain ⟨id, kind, config, label, parentId⟩ := n
  cases label with
  | none => rfl
  | some label =>
    cases hempty : label.isEmpty <;> simp [tidy, displayName, Option.filter_some, hempty]

end Node

namespace Edge

/-- The edge without handles that are empty. -/
def tidy (e : Edge) : Edge :=
  { e with sourceHandle := namedHandle e.sourceHandle, targetHandle := namedHandle e.targetHandle }

variable (e : Edge)

@[simp] theorem id_tidy : e.tidy.id = e.id := rfl

@[simp] theorem source_tidy : e.tidy.source = e.source := rfl

@[simp] theorem target_tidy : e.tidy.target = e.target := rfl

/-- A handle that is named stays so. -/
@[simp] theorem namedHandle_namedHandle (handle : Option Text) :
    namedHandle (namedHandle handle) = namedHandle handle := by
  simp [namedHandle, Option.filter_filter]

@[simp] theorem namedHandle_sourceHandle_tidy :
    namedHandle e.tidy.sourceHandle = namedHandle e.sourceHandle :=
  namedHandle_namedHandle e.sourceHandle

@[simp] theorem namedHandle_targetHandle_tidy :
    namedHandle e.tidy.targetHandle = namedHandle e.targetHandle :=
  namedHandle_namedHandle e.targetHandle

/-- An edge that is tidy stays as it is. -/
@[simp] theorem tidy_tidy : e.tidy.tidy = e.tidy := by
  simp [tidy]

end Edge

/-- The reading with a tidied node, if it is one of a node. -/
def NodeReading.tidy : NodeReading → NodeReading
  | node n => node n.tidy
  | r => r

namespace Snapshot

/-! ## 3. Graphs -/

/-- The snapshot with all its nodes and edges tidied. -/
def tidy (s : Snapshot) : Snapshot :=
  { s with
    nodes := s.nodes.mapValues fun _ => Node.tidy
    edges := s.edges.map Edge.tidy
    outgoing := s.outgoing.mapValues fun _ => List.map Edge.tidy
    incoming := s.incoming.mapValues fun _ => List.map Edge.tidy }

variable (s : Snapshot)

@[simp] theorem keys_tidy : s.tidy.nodes.keys = s.nodes.keys := OrderedMap.keys_mapValues _ _

@[simp] theorem size_tidy : s.tidy.nodes.size = s.nodes.size := OrderedMap.size_mapValues _ _

@[simp] theorem nodeList_tidy : s.tidy.nodeList = s.nodeList.map Node.tidy :=
  OrderedMap.values_mapValues _ _

@[simp] theorem find?_tidy (id : Text) : s.tidy.nodes.find? id = (s.nodes.find? id).map Node.tidy :=
  OrderedMap.find?_mapValues _ _ _

@[simp] theorem hasNode_tidy (id : Text) : s.tidy.hasNode id = s.hasNode id :=
  OrderedMap.contains_mapValues _ _ _

@[simp] theorem edges_tidy : s.tidy.edges = s.edges.map Edge.tidy := rfl

@[simp] theorem adjacency_tidy : s.tidy.adjacency = s.adjacency := rfl

@[simp] theorem findings_tidy : s.tidy.findings = s.findings := rfl

@[simp] theorem isEmpty_tidy : s.tidy.isEmpty = s.isEmpty := by
  simp [isEmpty, tidy, OrderedMap.mapValues]

@[simp] theorem edgesFrom_tidy (id : Text) : s.tidy.edgesFrom id = (s.edgesFrom id).map Edge.tidy := by
  simp only [edgesFrom, tidy, OrderedMap.find?_mapValues]
  cases s.outgoing.find? id <;> rfl

@[simp] theorem edgesTo_tidy (id : Text) : s.tidy.edgesTo id = (s.edgesTo id).map Edge.tidy := by
  simp only [edgesTo, tidy, OrderedMap.find?_mapValues]
  cases s.incoming.find? id <;> rfl

/-- **Every node is called what it was called.** -/
@[simp] theorem displayName_tidy (id : Text) : s.tidy.displayName id = s.displayName id := by
  simp only [displayName, find?_tidy]
  cases s.nodes.find? id with
  | none => rfl
  | some n => exact n.displayName_tidy

/-- The record of a finished snapshot counts, and counts the same. -/
@[simp] theorem adaptedRecord_tidy : s.tidy.adaptedRecord = s.adaptedRecord := by
  simp [adaptedRecord]

/-- **What makes nothing of empty names is the same of graphs that are the same when tidied.** -/
theorem eq_of_tidy_eq {α : Type} {view : Snapshot → α} (hview : ∀ s, view s.tidy = view s)
    {s s' : Snapshot} (h : s.tidy = s'.tidy) : view s = view s' := by
  rw [← hview s, h, hview s']

/-! ## 4. Taking over entries -/

/-- What becomes of a tidied entry among the nodes. -/
def NodeFate.tidy : NodeFate → NodeFate
  | accepted n => accepted n.tidy
  | fate => fate

/-- What becomes of a tidied entry among the edges. -/
def EdgeFate.tidy : EdgeFate → EdgeFate
  | accepted e => accepted e.tidy
  | dangling e noSource noTarget => dangling e.tidy noSource noTarget
  | fate => fate

theorem nodeFate_tidy (r : NodeReading) : s.tidy.nodeFate r.tidy = (s.nodeFate r).tidy := by
  cases r with
  | unreadable => rfl
  | badConfig id badKeys => rfl
  | node n => cases h : s.hasNode n.id <;> simp [nodeFate, NodeReading.tidy, NodeFate.tidy, h]

theorem edgeFate_tidy (seen : List Text) (r : Option Edge) :
    s.tidy.edgeFate seen (r.map Edge.tidy) = (s.edgeFate seen r).tidy := by
  cases r with
  | none => rfl
  | some e =>
    simp only [edgeFate, Option.map_some, Edge.id_tidy, Edge.source_tidy, Edge.target_tidy,
      hasNode_tidy]
    split
    · rfl
    · split <;> rfl

/-- The findings on an entry name nothing that tidying leaves out. -/
@[simp] theorem nodeFindings_tidy (index : Nat) (fate : NodeFate) :
    nodeFindings index fate.tidy = nodeFindings index fate := by
  cases fate <;> simp [NodeFate.tidy, nodeFindings, kindFindings]

@[simp] theorem edgeFindings_tidy (index : Nat) (fate : EdgeFate) :
    edgeFindings index fate.tidy = edgeFindings index fate := by
  cases fate <;> simp [EdgeFate.tidy, edgeFindings, missingEnd]

@[simp] theorem seenAfter_tidy (seen : List Text) (r : Option Edge) :
    seenAfter seen (r.map Edge.tidy) = seenAfter seen r := by
  cases r <;> rfl

theorem addNode_tidy (n : Node) : s.tidy.addNode n.tidy = (s.addNode n).tidy := by
  have hedges := OrderedMap.insert_mapValues (List.map Edge.tidy) s.outgoing n.id []
  have hedges' := OrderedMap.insert_mapValues (List.map Edge.tidy) s.incoming n.id []
  simp only [List.map_nil] at hedges hedges'
  simp [addNode, tidy, OrderedMap.insert_mapValues, hedges, hedges']

theorem addEdge_tidy (e : Edge) : s.tidy.addEdge e.tidy = (s.addEdge e).tidy := by
  have happend (m : OrderedMap Text (List Edge)) (id : Text) :
      (m.mapValues fun _ => List.map Edge.tidy).modify id (· ++ [e.tidy]) =
        (m.modify id (· ++ [e])).mapValues fun _ => List.map Edge.tidy :=
    OrderedMap.modify_mapValues (fun es => by rw [List.map_append, List.map_singleton]) m id
  simp [addEdge, tidy, happend]

/-- **Taking over a tidied node tidies what comes of taking over the node.** -/
theorem takeNode_tidy (r : NodeReading) (index : Nat) :
    s.tidy.takeNode (r.tidy, index) = (s.takeNode (r, index)).tidy := by
  simp only [takeNode, nodeFate_tidy, nodeFindings_tidy]
  cases s.nodeFate r with
  | accepted n =>
    exact addNode_tidy { s with findings := s.findings ++ nodeFindings index (.accepted n) } n
  | malformed id => rfl
  | duplicate id => rfl

/-- **So does taking over a tidied edge**, and the ids met are the same. -/
theorem takeEdge_tidy (seen : List Text) (r : Option Edge) (index : Nat) :
    takeEdge (s.tidy, seen) (r.map Edge.tidy, index) =
      (takeEdge (s, seen) (r, index)).map tidy id := by
  simp only [takeEdge, edgeFate_tidy, edgeFindings_tidy, seenAfter_tidy]
  cases s.edgeFate seen r with
  | accepted e =>
    exact congrArg (·, seenAfter seen r)
      (addEdge_tidy { s with findings := s.findings ++ edgeFindings index (.accepted e) } e)
  | malformed => rfl
  | duplicate id => rfl
  | dangling e noSource noTarget => rfl

/-! ## 5. Whole canvases -/

theorem takeNodes_tidy (readings : List NodeReading) :
    s.tidy.takeNodes (readings.map NodeReading.tidy) = (s.takeNodes readings).tidy := by
  simp only [takeNodes, List.zipIdx_map, List.foldl_map]
  induction readings.zipIdx generalizing s with
  | nil => rfl
  | cons entry rest ih =>
    rw [List.foldl_cons, List.foldl_cons, ← ih]
    exact congrArg (rest.foldl _) (s.takeNode_tidy entry.1 entry.2)

theorem takeEdges_tidy (readings : List (Option Edge)) :
    s.tidy.takeEdges (readings.map (Option.map Edge.tidy)) = (s.takeEdges readings).tidy := by
  have hrun (entries : List (Option Edge × Nat)) (state : Snapshot × List Text) :
      entries.foldl (fun state entry => takeEdge state (entry.1.map Edge.tidy, entry.2))
          (state.map tidy id) = (entries.foldl takeEdge state).map tidy id := by
    induction entries generalizing state with
    | nil => rfl
    | cons entry rest ih =>
      rw [List.foldl_cons, List.foldl_cons, ← ih]
      exact congrArg (rest.foldl _) (takeEdge_tidy state.1 state.2 entry.1 entry.2)
  simp only [takeEdges, List.zipIdx_map, List.foldl_map]
  exact congrArg Prod.fst (hrun readings.zipIdx (s, []))

/-- **The graph of tidied readings is the tidied graph of the readings.** -/
theorem ofReadings_tidy (nodes : List NodeReading) (edges : List (Option Edge)) :
    ofReadings (nodes.map NodeReading.tidy) (edges.map (Option.map Edge.tidy)) =
      (ofReadings nodes edges).tidy := by
  rw [ofReadings, ofReadings, ← takeEdges_tidy, ← takeNodes_tidy]
  rfl

/-- Nodes that are tidied have the same forms, so the log says the same of these. -/
@[simp] theorem rejectionRecords_tidy (readings : List NodeReading) :
    rejectionRecords (readings.map NodeReading.tidy) = rejectionRecords readings := by
  have hrecord : rejectionRecord? ∘ Prod.map NodeReading.tidy id = rejectionRecord? := by
    funext ⟨r, index⟩
    cases r <;> rfl
  rw [rejectionRecords, List.zipIdx_map, List.filterMap_map, hrecord, rejectionRecords]

end Snapshot

end WorkflowGate
