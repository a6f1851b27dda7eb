/-
# Snapshots

A snapshot is the graph that one validation run looks at.  It is built from readings, one entry
after the other; each entry has one *fate*: it is accepted, or a finding says why it is not.  The
indexes by node are kept up to date with every accepted edge.

Everything after this stage may rely on both ends of an edge being nodes of the snapshot.

* `nodeFate_accepted_iff`: a node is accepted exactly when no node of its id is there yet;
* `edgeFate_accepted_iff`: an edge is accepted exactly when its id is new and both its ends are
  nodes;
* `keys_addNode`, `nodes_addEdge`: what one more entry does to the nodes.
-/
import WorkflowGate.Finding.Basic
import WorkflowGate.Graph.Entry
import WorkflowGate.Log.Record

namespace WorkflowGate

/-- One step along an edge: where it leads and by which edge. -/
structure Step where
  target : Text
  edgeId : Text
deriving DecidableEq

/-- The graph of one run, with its indexes by node. -/
structure Snapshot where
  nodes : OrderedMap Text Node := OrderedMap.empty
  edges : List Edge := []
  adjacency : OrderedMap Text (List Step) := OrderedMap.empty
  outgoing : OrderedMap Text (List Edge) := OrderedMap.empty
  incoming : OrderedMap Text (List Edge) := OrderedMap.empty
  findings : List Finding := []

namespace Snapshot

/-! ## 1. Looking things up -/

/-- The snapshot without nodes. -/
def empty : Snapshot := {}

/-- Does a node have the id? -/
def hasNode (s : Snapshot) (id : Text) : Bool := s.nodes.contains id

/-- The nodes in the order in which they were given. -/
def nodeList (s : Snapshot) : List Node := s.nodes.values

/-- What people call the node of an id; the id itself if there is none. -/
def displayName (s : Snapshot) (id : Text) : Text :=
  match s.nodes.find? id with
  | some n => n.displayName
  | none => id

/-- The edges that leave a node. -/
def edgesFrom (s : Snapshot) (id : Text) : List Edge := (s.outgoing.find? id).getD []

/-- The edges that enter a node. -/
def edgesTo (s : Snapshot) (id : Text) : List Edge := (s.incoming.find? id).getD []

/-- Are there no nodes? -/
def isEmpty (s : Snapshot) : Bool := s.nodes.entries.isEmpty

/-! ## 2. Nodes -/

/-- What becomes of an entry among the nodes. -/
inductive NodeFate
  | accepted (n : Node)
  | malformed (id : Option Text)
  | duplicate (id : Text)

/-- The fate of a reading, given the nodes accepted so far. -/
def nodeFate (s : Snapshot) : NodeReading → NodeFate
  | .unreadable => .malformed none
  | .badConfig id _ => .malformed (some id)
  | .node n => if s.hasNode n.id then .duplicate n.id else .accepted n

/-- A node is accepted exactly when it could be read and no node has its id yet. -/
theorem nodeFate_accepted_iff (s : Snapshot) (r : NodeReading) (n : Node) :
    s.nodeFate r = .accepted n ↔ r = .node n ∧ s.hasNode n.id = false := by
  cases r with
  | unreadable => simp [nodeFate]
  | badConfig id badKeys => simp [nodeFate]
  | node m =>
    by_cases h : s.hasNode m.id = true
    · simp only [nodeFate, h, if_true]
      constructor
      · intro hc; cases hc
      · rintro ⟨hm, hn⟩; cases hm; simp [h] at hn
    · simp only [nodeFate, h]
      constructor
      · intro hc; cases hc; exact ⟨rfl, by simpa using h⟩
      · rintro ⟨hm, -⟩; cases hm; rfl

/-- The findings on an accepted node: one when it has no kind. -/
def kindFindings (n : Node) : List Finding :=
  Finding.onlyIf n.kind.isEmpty
    (.warning .missingNodeKind ("Node \"" ++ n.displayName ++ "\" has no node type") n.id)

/-- The findings that a fate gives rise to. -/
def nodeFindings (index : Nat) : NodeFate → List Finding
  | .accepted n => kindFindings n
  | .malformed id =>
    [.warning .malformedNode
      ("Node entry #" ++ Text.ofNat index ++ Text.ofString " is not a valid node and was ignored")
      id]
  | .duplicate id =>
    [.warning .duplicateNodeId
      ("Duplicate node id '" ++ id ++ "'; only the first occurrence is validated") id]

/-- Adds a node, with empty lists in the indexes. -/
def addNode (s : Snapshot) (n : Node) : Snapshot :=
  { s with
    nodes := s.nodes.insert n.id n
    adjacency := s.adjacency.insert n.id []
    outgoing := s.outgoing.insert n.id []
    incoming := s.incoming.insert n.id [] }

/-- A new node comes last. -/
theorem keys_addNode (s : Snapshot) (n : Node) (h : s.hasNode n.id = false) :
    (s.addNode n).nodes.keys = s.nodes.keys ++ [n.id] := by
  have hk : n.id ∉ s.nodes.keys := fun hm => by
    rw [hasNode, (OrderedMap.contains_iff _ _).mpr hm] at h; cases h
  simp [addNode, OrderedMap.keys_insert, hk]

/-- The snapshot after one more entry among the nodes. -/
def takeNode (s : Snapshot) (entry : NodeReading × Nat) : Snapshot :=
  let fate := s.nodeFate entry.1
  let s := { s with findings := s.findings ++ nodeFindings entry.2 fate }
  match fate with
  | .accepted n => s.addNode n
  | _ => s

/-! ## 3. Edges -/

/-- What becomes of an entry among the edges.  A dangling edge lacks its source, its target or
both. -/
inductive EdgeFate
  | accepted (e : Edge)
  | malformed
  | duplicate (id : Text)
  | dangling (e : Edge) (noSource noTarget : Bool)

/-- The fate of a reading, given the edge ids met so far. -/
def edgeFate (s : Snapshot) (seen : List Text) : Option Edge → EdgeFate
  | none => .malformed
  | some e =>
    if seen.contains e.id then .duplicate e.id
    else if s.hasNode e.source && s.hasNode e.target then .accepted e
    else .dangling e (!s.hasNode e.source) (!s.hasNode e.target)

/-- An edge is accepted exactly when it could be read, its id is new and both its ends are
nodes. -/
theorem edgeFate_accepted_iff (s : Snapshot) (seen : List Text) (r : Option Edge) (e : Edge) :
    s.edgeFate seen r = .accepted e ↔
      r = some e ∧ e.id ∉ seen ∧ s.hasNode e.source = true ∧ s.hasNode e.target = true := by
  cases r with
  | none => simp [edgeFate]
  | some d =>
    simp only [edgeFate, Option.some.injEq]
    by_cases hs : d.id ∈ seen
    · simp only [List.contains_iff_mem, hs, if_true]
      constructor
      · intro hc; cases hc
      · rintro ⟨rfl, hn, -⟩; exact absurd hs hn
    · by_cases hb : (s.hasNode d.source && s.hasNode d.target) = true
      · simp only [List.contains_iff_mem, hs, if_false, hb, if_true]
        constructor
        · intro hc; cases hc
          exact ⟨rfl, hs, (Bool.and_eq_true _ _ ▸ hb).1, (Bool.and_eq_true _ _ ▸ hb).2⟩
        · rintro ⟨rfl, -⟩; rfl
      · simp only [List.contains_iff_mem, hs, if_false, hb]
        constructor
        · intro hc; cases hc
        · rintro ⟨rfl, -, h1, h2⟩; simp [h1, h2] at hb

/-- The finding that an end of an edge is no node, if it is none. -/
def missingEnd (isMissing : Bool) (code : Code) (e : Edge) (word : String) (node : Text) :
    List Finding :=
  Finding.onlyIf isMissing
    (.warning code
      ("Edge '" ++ e.id ++ "' references missing " ++ Text.ofString word ++ " node '" ++ node ++ "'"))

/-- The findings that a fate gives rise to. -/
def edgeFindings (index : Nat) : EdgeFate → List Finding
  | .accepted _ => []
  | .malformed =>
    [.warning .malformedEdge
      ("Edge entry #" ++ Text.ofNat index ++
        Text.ofString " is missing its source or target and was ignored")]
  | .duplicate id =>
    [.warning .duplicateEdgeId
      ("Duplicate edge id '" ++ id ++ "'; only the first occurrence is used")]
  | .dangling e noSource noTarget =>
    missingEnd noSource .unknownEdgeSource e "source" e.source ++
      missingEnd noTarget .unknownEdgeTarget e "target" e.target

/-- Adds an edge to the list and to the indexes of its ends. -/
def addEdge (s : Snapshot) (e : Edge) : Snapshot :=
  { s with
    edges := s.edges ++ [e]
    adjacency := s.adjacency.modify e.source (· ++ [⟨e.target, e.id⟩])
    outgoing := s.outgoing.modify e.source (· ++ [e])
    incoming := s.incoming.modify e.target (· ++ [e]) }

/-- An edge more leaves the nodes as they are. -/
@[simp] theorem nodes_addEdge (s : Snapshot) (e : Edge) : (s.addEdge e).nodes = s.nodes := rfl

/-- The edge ids met once the entry has been met: those of all entries that could be read. -/
def seenAfter (seen : List Text) : Option Edge → List Text
  | none => seen
  | some e => e.id :: seen

/-- The snapshot after one more entry among the edges, and the edge ids met. -/
def takeEdge (state : Snapshot × List Text) (entry : Option Edge × Nat) : Snapshot × List Text :=
  let (s, seen) := state
  let fate := s.edgeFate seen entry.1
  let s := { s with findings := s.findings ++ edgeFindings entry.2 fate }
  match fate with
  | .accepted e => (s.addEdge e, seenAfter seen entry.1)
  | _ => (s, seenAfter seen entry.1)

/-! ## 4. The whole canvas -/

/-- Takes over all entries among the nodes. -/
def takeNodes (s : Snapshot) (readings : List NodeReading) : Snapshot :=
  readings.zipIdx.foldl takeNode s

/-- Takes over all entries among the edges. -/
def takeEdges (s : Snapshot) (readings : List (Option Edge)) : Snapshot :=
  (readings.zipIdx.foldl takeEdge (s, [])).1

/-- The snapshot of a canvas. -/
def ofReadings (nodes : List NodeReading) (edges : List (Option Edge)) : Snapshot :=
  (empty.takeNodes nodes).takeEdges edges

/-- The snapshot of entries, unless one of them holds an integer that cannot be written, or a form too
deep to be copied. -/
def ofEntries [Room] (nodes : List (Entry Node)) (edges : List (Entry Edge)) : Except Fault Snapshot := do
  return ofReadings (← nodes.mapM Entry.readNode) (← edges.mapM Entry.readEdge)

/-- The snapshot of batches, which must be something that one can go through. -/
def ofBatches [Room] (nodes : Batch Node) (edges : Batch Edge) : Except Fault Snapshot := do
  let nodes ← (← nodes.toEntries).mapM Entry.readNode
  let edges ← (← edges.toEntries).mapM Entry.readEdge
  return ofReadings nodes edges

/-! ## 5. What the log says -/

/-- The record of an entry whose form values could not be taken over, if that is so. -/
def rejectionRecord? (entry : NodeReading × Nat) : Option LogRecord :=
  match entry.1 with
  | .badConfig _ badKeys =>
    some (.of .graph .debug
      ("Rejected node entry #" ++ Text.ofNat entry.2 ++ Text.ofString ": " ++ Text.ofNat badKeys ++
        Text.ofString " validation errors"))
  | _ => none

/-- The records of all such entries. -/
def rejectionRecords (readings : List NodeReading) : List LogRecord :=
  readings.zipIdx.filterMap rejectionRecord?

/-- The record of a finished snapshot. -/
def adaptedRecord (s : Snapshot) : LogRecord :=
  .of .graph .debug
    ("Adapted graph: " ++ Text.ofNat s.nodes.size ++ Text.ofString " nodes, " ++
      Text.ofNat s.edges.length ++ Text.ofString " edges, " ++ Text.ofNat s.findings.length ++
      Text.ofString " input findings")

end Snapshot

end WorkflowGate
