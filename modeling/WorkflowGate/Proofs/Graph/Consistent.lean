/-
# The indexes of a snapshot agree

A snapshot holds its graph five times over: the nodes by id, the edges in a list, and three indexes
of the edges by node.  They are filled by two loops that look at one entry after the other and leave
out an entry for several reasons.  Every analysis reads the indexes without a check of its own, so it
relies on their agreement.

`Consistent` says what agreement is.  One accepted entry keeps it (`Consistent.addNode`,
`Consistent.addEdge`), hence so does one entry of any fate (`Consistent.takeNode`,
`Consistent.takeEdge`), hence both loops.

* `takeNode_cases`, `takeEdge_cases`: what one entry can do;
* `consistent_ofReadings`: the snapshot of any readings is consistent;
* `consistent_of_ofBatches`: so is every snapshot of a canvas that could be gone through;
* `Consistent.ext`: the nodes and the edges decide the indexes;
* `ofBatches_indexes`: what that says of the maps and lists that an analysis reads.
-/
import Mathlib.Data.List.Nodup
import WorkflowGate.Graph.Snapshot
import WorkflowGate.Proofs.Result

namespace WorkflowGate

/-- The step along an edge. -/
def Edge.step (e : Edge) : Step := ⟨e.target, e.id⟩

namespace Snapshot

/-! ## 1. Agreement -/

/-- The edges that leave a node, in order. -/
def leaving (s : Snapshot) (id : Text) : List Edge := s.edges.filter fun e => e.source = id

/-- The edges that enter a node, in order. -/
def entering (s : Snapshot) (id : Text) : List Edge := s.edges.filter fun e => e.target = id

/-- **The indexes agree with the nodes and the edges.**  No id stands for two nodes or for two edges,
every edge runs between nodes, and each index has an entry for every node, which holds the edges of
that node in order. -/
structure Consistent (s : Snapshot) : Prop where
  id_of_entry : ∀ entry ∈ s.nodes.entries, entry.2.id = entry.1
  adjacency_keys : s.adjacency.keys = s.nodes.keys
  outgoing_keys : s.outgoing.keys = s.nodes.keys
  incoming_keys : s.incoming.keys = s.nodes.keys
  edge_ids_nodup : (s.edges.map Edge.id).Nodup
  ends : ∀ e ∈ s.edges, e.source ∈ s.nodes.keys ∧ e.target ∈ s.nodes.keys
  outgoing_eq : ∀ id ∈ s.nodes.keys, s.outgoing.find? id = some (s.leaving id)
  incoming_eq : ∀ id ∈ s.nodes.keys, s.incoming.find? id = some (s.entering id)
  adjacency_eq : ∀ id ∈ s.nodes.keys, s.adjacency.find? id = some ((s.leaving id).map Edge.step)

/-- Nothing disagrees in the snapshot without nodes. -/
theorem consistent_empty : Consistent empty where
  id_of_entry _ h := absurd h List.not_mem_nil
  adjacency_keys := rfl
  outgoing_keys := rfl
  incoming_keys := rfl
  edge_ids_nodup := List.nodup_nil
  ends _ h := absurd h List.not_mem_nil
  outgoing_eq _ h := absurd h List.not_mem_nil
  incoming_eq _ h := absurd h List.not_mem_nil
  adjacency_eq _ h := absurd h List.not_mem_nil

@[simp] theorem hasNode_iff (s : Snapshot) (id : Text) : s.hasNode id = true ↔ id ∈ s.nodes.keys :=
  OrderedMap.contains_iff s.nodes id

theorem not_mem_keys_of_hasNode {s : Snapshot} {id : Text} (h : s.hasNode id = false) :
    id ∉ s.nodes.keys := by
  intro hm
  rw [(s.hasNode_iff id).mpr hm] at h
  cases h

/-! ## 2. One more node -/

/-- No edge leaves or enters what is no node. -/
theorem Consistent.leaving_eq_nil {s : Snapshot} (h : s.Consistent) {id : Text}
    (hid : id ∉ s.nodes.keys) : s.leaving id = [] := by
  refine List.filter_eq_nil_iff.mpr fun e he hs => hid ?_
  rw [← of_decide_eq_true hs]
  exact (h.ends e he).1

theorem Consistent.entering_eq_nil {s : Snapshot} (h : s.Consistent) {id : Text}
    (hid : id ∉ s.nodes.keys) : s.entering id = [] := by
  refine List.filter_eq_nil_iff.mpr fun e he ht => hid ?_
  rw [← of_decide_eq_true ht]
  exact (h.ends e he).2

/-- An index with a fresh entry for a node that no edge touches. -/
theorem find?_insert_of_fresh {α : Type} {m : OrderedMap Text (List α)} {keys : List Text}
    (held : Text → List α) {fresh : Text} (h : ∀ id ∈ keys, m.find? id = some (held id))
    (hfresh : held fresh = []) :
    ∀ id ∈ keys ++ [fresh], (m.insert fresh []).find? id = some (held id) := by
  intro id hid
  by_cases he : fresh = id
  · subst he
    rw [OrderedMap.find?_insert_self, hfresh]
  · rw [OrderedMap.find?_insert_of_ne _ _ he]
    rcases List.mem_append.mp hid with hid | hid
    · exact h id hid
    · exact absurd (List.mem_singleton.mp hid).symm he

/-- **A node more keeps the agreement**, if nothing has its id yet. -/
theorem Consistent.addNode {s : Snapshot} (h : s.Consistent) {n : Node}
    (hn : s.hasNode n.id = false) : (s.addNode n).Consistent := by
  have hid : n.id ∉ s.nodes.keys := not_mem_keys_of_hasNode hn
  have hkeys : (s.addNode n).nodes.keys = s.nodes.keys ++ [n.id] := keys_addNode s n hn
  have hindex : ∀ {α : Type} (m : OrderedMap Text (List α)), m.keys = s.nodes.keys →
      (m.insert n.id []).keys = (s.addNode n).nodes.keys := by
    intro α m hm
    rw [OrderedMap.keys_insert, hm, if_neg hid, hkeys]
  have hleave := h.leaving_eq_nil hid
  have henter := h.entering_eq_nil hid
  constructor
  case id_of_entry =>
    intro entry hentry
    rcases OrderedMap.mem_insertEntry hentry with rfl | hold
    · rfl
    · exact h.id_of_entry entry hold
  case adjacency_keys => exact hindex s.adjacency h.adjacency_keys
  case outgoing_keys => exact hindex s.outgoing h.outgoing_keys
  case incoming_keys => exact hindex s.incoming h.incoming_keys
  case edge_ids_nodup => exact h.edge_ids_nodup
  case ends =>
    intro e he
    rw [hkeys]
    exact ⟨List.mem_append_left _ (h.ends e he).1, List.mem_append_left _ (h.ends e he).2⟩
  case outgoing_eq =>
    rw [hkeys]
    exact find?_insert_of_fresh s.leaving h.outgoing_eq hleave
  case incoming_eq =>
    rw [hkeys]
    exact find?_insert_of_fresh s.entering h.incoming_eq henter
  case adjacency_eq =>
    rw [hkeys]
    exact find?_insert_of_fresh (fun id => (s.leaving id).map Edge.step) h.adjacency_eq
      (by rw [hleave]; rfl)

/-! ## 3. One more edge -/

/-- An index of a list of edges by one of their ends, once an edge more stands in the list. -/
theorem find?_modify_of_filter {α : Type} {m : OrderedMap Text (List α)} {edges : List Edge}
    {keys : List Text} (endOf : Edge → Text) (as : Edge → α)
    (h : ∀ id ∈ keys, m.find? id = some ((edges.filter fun e => endOf e = id).map as)) (e : Edge) :
    ∀ id ∈ keys, (m.modify (endOf e) (· ++ [as e])).find? id =
      some (((edges ++ [e]).filter fun e => endOf e = id).map as) := by
  intro id hid
  rw [OrderedMap.find?_modify, h id hid, List.filter_append]
  by_cases he : endOf e = id <;> simp [he]

/-- **An edge more keeps the agreement**, if its id is new and both its ends are nodes. -/
theorem Consistent.addEdge {s : Snapshot} (h : s.Consistent) {e : Edge}
    (hnew : e.id ∉ s.edges.map Edge.id) (hsource : s.hasNode e.source = true)
    (htarget : s.hasNode e.target = true) : (s.addEdge e).Consistent := by
  constructor
  case id_of_entry => exact h.id_of_entry
  case adjacency_keys => exact (OrderedMap.keys_modify _ _ _).trans h.adjacency_keys
  case outgoing_keys => exact (OrderedMap.keys_modify _ _ _).trans h.outgoing_keys
  case incoming_keys => exact (OrderedMap.keys_modify _ _ _).trans h.incoming_keys
  case edge_ids_nodup =>
    simp only [Snapshot.addEdge, List.map_append, List.map_cons, List.map_nil]
    exact List.nodup_append.mpr ⟨h.edge_ids_nodup,
      List.nodup_cons.mpr ⟨List.not_mem_nil, List.nodup_nil⟩,
      fun a ha b hb heq => hnew (List.mem_singleton.mp hb ▸ heq ▸ ha)⟩
  case ends =>
    intro d hd
    rcases List.mem_append.mp hd with hd | hd
    · exact h.ends d hd
    · rw [List.mem_singleton.mp hd]
      exact ⟨(s.hasNode_iff _).mp hsource, (s.hasNode_iff _).mp htarget⟩
  case outgoing_eq =>
    have hold : ∀ id ∈ s.nodes.keys, s.outgoing.find? id =
        some ((s.edges.filter fun e => e.source = id).map fun e => e) := by
      intro id hid
      rw [List.map_id', h.outgoing_eq id hid, leaving]
    intro id hid
    have hnow := find?_modify_of_filter Edge.source (fun e => e) hold e id hid
    rwa [List.map_id'] at hnow
  case incoming_eq =>
    have hold : ∀ id ∈ s.nodes.keys, s.incoming.find? id =
        some ((s.edges.filter fun e => e.target = id).map fun e => e) := by
      intro id hid
      rw [List.map_id', h.incoming_eq id hid, entering]
    intro id hid
    have hnow := find?_modify_of_filter Edge.target (fun e => e) hold e id hid
    rwa [List.map_id'] at hnow
  case adjacency_eq => exact find?_modify_of_filter Edge.source Edge.step h.adjacency_eq e

/-! ## 4. Entries of any fate -/

/-- Findings are no part of the graph. -/
theorem Consistent.withFindings {s : Snapshot} (h : s.Consistent) (findings : List Finding) :
    Consistent { s with findings := findings } :=
  ⟨h.id_of_entry, h.adjacency_keys, h.outgoing_keys, h.incoming_keys, h.edge_ids_nodup, h.ends,
    h.outgoing_eq, h.incoming_eq, h.adjacency_eq⟩

/-- **What an entry among the nodes does.**  It adds the node that was read, whose id is new, or it
adds nothing but findings. -/
theorem takeNode_cases (s : Snapshot) (reading : NodeReading) (index : Nat) :
    (∃ n, reading = .node n ∧ s.hasNode n.id = false ∧
      s.takeNode (reading, index) =
        { s with findings := s.findings ++ kindFindings n }.addNode n) ∨
    ((∀ n, s.nodeFate reading ≠ .accepted n) ∧
      s.takeNode (reading, index) =
        { s with findings := s.findings ++ nodeFindings index (s.nodeFate reading) }) := by
  unfold takeNode
  cases hfate : s.nodeFate reading with
  | accepted n =>
    obtain ⟨hread, hnew⟩ := (s.nodeFate_accepted_iff reading n).mp hfate
    exact .inl ⟨n, hread, hnew, rfl⟩
  | malformed id => exact .inr ⟨fun n h => (by cases h), rfl⟩
  | duplicate id => exact .inr ⟨fun n h => (by cases h), rfl⟩

/-- **What an entry among the edges does.**  It adds the edge that was read, whose id is new and whose
ends are nodes, or it adds nothing but findings.  Its id counts as met in any case. -/
theorem takeEdge_cases (s : Snapshot) (seen : List Text) (reading : Option Edge) (index : Nat) :
    (∃ e, reading = some e ∧ e.id ∉ seen ∧ s.hasNode e.source = true ∧ s.hasNode e.target = true ∧
      takeEdge (s, seen) (reading, index) =
        ({ s with findings := s.findings ++ [] }.addEdge e, seenAfter seen reading)) ∨
    ((∀ e, s.edgeFate seen reading ≠ .accepted e) ∧
      takeEdge (s, seen) (reading, index) =
        ({ s with findings := s.findings ++ edgeFindings index (s.edgeFate seen reading) },
          seenAfter seen reading)) := by
  unfold takeEdge
  cases hfate : s.edgeFate seen reading with
  | accepted e =>
    obtain ⟨hread, hnew, hsource, htarget⟩ := (s.edgeFate_accepted_iff seen reading e).mp hfate
    refine .inl ⟨e, hread, hnew, hsource, htarget, ?_⟩
    simp only [hfate]
    rfl
  | malformed => exact .inr ⟨fun e h => (by cases h), by simp only [hfate]⟩
  | duplicate id => exact .inr ⟨fun e h => (by cases h), by simp only [hfate]⟩
  | dangling e noSource noTarget => exact .inr ⟨fun e h => (by cases h), by simp only [hfate]⟩

/-- Whatever becomes of an entry among the nodes, the indexes agree afterwards. -/
theorem Consistent.takeNode {s : Snapshot} (h : s.Consistent) (entry : NodeReading × Nat) :
    (s.takeNode entry).Consistent := by
  obtain ⟨reading, index⟩ := entry
  rcases s.takeNode_cases reading index with ⟨n, -, hnew, heq⟩ | ⟨-, heq⟩
  · rw [heq]
    exact (h.withFindings _).addNode hnew
  · rw [heq]
    exact h.withFindings _

theorem Consistent.takeNodes {s : Snapshot} (h : s.Consistent) (readings : List NodeReading) :
    (s.takeNodes readings).Consistent := by
  have hloop : ∀ (entries : List (NodeReading × Nat)) (s : Snapshot), s.Consistent →
      (entries.foldl Snapshot.takeNode s).Consistent := by
    intro entries
    induction entries with
    | nil => intro s hs; exact hs
    | cons entry rest ih => intro s hs; exact ih _ (hs.takeNode entry)
  exact hloop _ s h

/-- The loop over the edges keeps the agreement, and an account of every id in use. -/
structure Loading (state : Snapshot × List Text) : Prop where
  consistent : state.1.Consistent
  seen : ∀ e ∈ state.1.edges, e.id ∈ state.2

/-- Whatever becomes of an entry among the edges, the indexes agree afterwards and every id in use is
accounted for. -/
theorem Loading.takeEdge {state : Snapshot × List Text} (h : Loading state)
    (entry : Option Edge × Nat) : Loading (Snapshot.takeEdge state entry) := by
  obtain ⟨s, seen⟩ := state
  obtain ⟨reading, index⟩ := entry
  have hseen : ∀ e ∈ s.edges, e.id ∈ seenAfter seen reading := by
    intro e he
    cases reading with
    | none => exact h.seen e he
    | some d => exact List.mem_cons_of_mem _ (h.seen e he)
  rcases takeEdge_cases s seen reading index with
    ⟨e, hread, hnew, hsource, htarget, heq⟩ | ⟨-, heq⟩
  · have hfresh : e.id ∉ s.edges.map Edge.id := by
      intro hm
      obtain ⟨d, hd, hid⟩ := List.mem_map.mp hm
      exact hnew (hid ▸ h.seen d hd)
    rw [heq]
    refine ⟨(h.consistent.withFindings _).addEdge hfresh hsource htarget, ?_⟩
    intro d hd
    rcases List.mem_append.mp hd with hd | hd
    · exact hseen d hd
    · rw [List.mem_singleton.mp hd, hread]
      exact List.mem_cons_self
  · rw [heq]
    exact ⟨h.consistent.withFindings _, hseen⟩

/-- The loop over the edges begins with none in use, so with nothing to account for. -/
theorem Consistent.takeEdges {s : Snapshot} (h : s.Consistent) (hnone : s.edges = [])
    (readings : List (Option Edge)) : (s.takeEdges readings).Consistent := by
  have hloop : ∀ (entries : List (Option Edge × Nat)) (state : Snapshot × List Text),
      Loading state → Loading (entries.foldl Snapshot.takeEdge state) := by
    intro entries
    induction entries with
    | nil => intro state hs; exact hs
    | cons entry rest ih => intro state hs; exact ih _ (hs.takeEdge entry)
  refine (hloop readings.zipIdx (s, []) ⟨h, ?_⟩).consistent
  intro e he
  rw [hnone] at he
  exact absurd he List.not_mem_nil

/-! ## 5. Whole canvases -/

/-- No node brings an edge. -/
theorem edges_takeNodes (s : Snapshot) (readings : List NodeReading) :
    (s.takeNodes readings).edges = s.edges := by
  have hstep : ∀ (s : Snapshot) (entry : NodeReading × Nat), (s.takeNode entry).edges = s.edges := by
    intro s entry
    unfold takeNode
    cases s.nodeFate entry.1 <;> rfl
  have hloop : ∀ (entries : List (NodeReading × Nat)) (s : Snapshot),
      (entries.foldl takeNode s).edges = s.edges := by
    intro entries
    induction entries with
    | nil => intro s; rfl
    | cons entry rest ih => intro s; exact (ih _).trans (hstep s entry)
  exact hloop _ s

/-- **The indexes of a snapshot agree**, whatever it was built from. -/
theorem consistent_ofReadings (nodes : List NodeReading) (edges : List (Option Edge)) :
    (ofReadings nodes edges).Consistent :=
  (consistent_empty.takeNodes nodes).takeEdges (edges_takeNodes empty nodes) edges

/-- A canvas has a snapshot exactly when it can be gone through and each entry can be read; it is the
snapshot of the readings. -/
theorem ofBatches_eq_ok_iff {nodes : Batch Node} {edges : Batch Edge} {s : Snapshot} :
    ofBatches nodes edges = .ok s ↔ ∃ ns es nodeReadings edgeReadings,
      (nodes.toEntries = .ok ns ∧ ns.mapM Entry.readNode = .ok nodeReadings) ∧
        (edges.toEntries = .ok es ∧ es.mapM Entry.readEdge = .ok edgeReadings) ∧
          s = ofReadings nodeReadings edgeReadings := by
  constructor
  · intro h
    obtain ⟨ns, hns, h⟩ := Result.bind_eq_ok_iff.mp h
    obtain ⟨nodeReadings, hnodes, h⟩ := Result.bind_eq_ok_iff.mp h
    obtain ⟨es, hes, h⟩ := Result.bind_eq_ok_iff.mp h
    obtain ⟨edgeReadings, hedges, h⟩ := Result.bind_eq_ok_iff.mp h
    exact ⟨ns, es, nodeReadings, edgeReadings, ⟨hns, hnodes⟩, ⟨hes, hedges⟩, (Except.ok.inj h).symm⟩
  · rintro ⟨ns, es, nodeReadings, edgeReadings, ⟨hns, hnodes⟩, ⟨hes, hedges⟩, rfl⟩
    refine Result.bind_eq_ok_iff.mpr ⟨ns, hns, Result.bind_eq_ok_iff.mpr ⟨nodeReadings, hnodes, ?_⟩⟩
    exact Result.bind_eq_ok_iff.mpr ⟨es, hes, Result.bind_eq_ok_iff.mpr ⟨edgeReadings, hedges, rfl⟩⟩

/-- The snapshot of entries that are all nodes and edges. -/
theorem ofBatches_of_readable {ns : List (Entry Node)} {es : List (Entry Edge)} {nodes : List Node}
    {edges : List Edge} (hnodes : ns.mapM Entry.readNode = .ok (nodes.map .node))
    (hedges : es.mapM Entry.readEdge = .ok (edges.map some)) :
    ofBatches (.entries ns) (.entries es) = .ok (ofReadings (nodes.map .node) (edges.map some)) :=
  ofBatches_eq_ok_iff.mpr ⟨ns, es, _, _, ⟨rfl, hnodes⟩, ⟨rfl, hedges⟩, rfl⟩

theorem consistent_of_ofBatches {nodes : Batch Node} {edges : Batch Edge} {s : Snapshot}
    (h : ofBatches nodes edges = .ok s) : s.Consistent := by
  obtain ⟨-, -, nodeReadings, edgeReadings, -, -, rfl⟩ := ofBatches_eq_ok_iff.mp h
  exact consistent_ofReadings nodeReadings edgeReadings

/-- A snapshot with a node has nodes. -/
theorem isEmpty_of_mem_nodeList (s : Snapshot) {n : Node} (h : n ∈ s.nodeList) :
    s.isEmpty = false := by
  obtain ⟨entry, hentry, -⟩ := List.mem_map.mp h
  exact List.isEmpty_eq_false_iff_exists_mem.mpr ⟨entry, hentry⟩

/-- The nodes stand under their own ids. -/
theorem Consistent.map_id_nodeList {s : Snapshot} (hs : s.Consistent) :
    s.nodeList.map Node.id = s.nodes.keys := by
  rw [nodeList, OrderedMap.values, OrderedMap.keys, List.map_map]
  exact List.map_congr_left hs.id_of_entry

/-- **No two nodes have one id.** -/
theorem Consistent.eq_of_id_eq {s : Snapshot} (hs : s.Consistent) {m n : Node}
    (hm : m ∈ s.nodeList) (hn : n ∈ s.nodeList) (h : m.id = n.id) : m = n := by
  have hnodup : (s.nodeList.map Node.id).Nodup := hs.map_id_nodeList ▸ s.nodes.nodup_keys
  exact List.inj_on_of_nodup_map hnodup hm hn h

theorem mem_nodeList_of_find? {s : Snapshot} {id : Text} {n : Node}
    (h : s.nodes.find? id = some n) : n ∈ s.nodeList :=
  List.mem_map.mpr ⟨(id, n), OrderedMap.mem_of_lookup h, rfl⟩

/-- **A node is found under an id exactly when the id is its own.** -/
theorem Consistent.find?_eq_some_iff {s : Snapshot} (hs : s.Consistent) {id : Text} {n : Node} :
    s.nodes.find? id = some n ↔ n ∈ s.nodeList ∧ n.id = id := by
  constructor
  · intro hfind
    exact ⟨mem_nodeList_of_find? hfind, hs.id_of_entry (id, n) (OrderedMap.mem_of_lookup hfind)⟩
  · rintro ⟨hn, rfl⟩
    have hkey : n.id ∈ s.nodes.keys := by
      rw [← hs.map_id_nodeList]
      exact List.mem_map_of_mem hn
    obtain ⟨m, hm⟩ := Option.isSome_iff_exists.mp ((s.hasNode_iff n.id).mpr hkey)
    have hid : m.id = n.id := hs.id_of_entry (n.id, m) (OrderedMap.mem_of_lookup hm)
    rw [hm, hs.eq_of_id_eq (mem_nodeList_of_find? hm) hn hid]

/-- So a node is among those that are kept exactly when its id is among theirs. -/
theorem Consistent.id_mem_map_filter_iff {s : Snapshot} (hs : s.Consistent) {keep : Node → Bool}
    {n : Node} (hn : n ∈ s.nodeList) :
    n.id ∈ (s.nodeList.filter keep).map Node.id ↔ keep n = true := by
  constructor
  · intro hid
    obtain ⟨m, hm, heq⟩ := List.mem_map.mp hid
    obtain ⟨hm, hkeep⟩ := List.mem_filter.mp hm
    rwa [← hs.eq_of_id_eq hm hn heq]
  · exact fun hkeep => List.mem_map_of_mem (List.mem_filter.mpr ⟨hn, hkeep⟩)

/-- The nodes stand under their own ids, and nothing else does. -/
theorem Consistent.entries_nodes {s : Snapshot} (h : s.Consistent) :
    s.nodes.entries = s.nodeList.map fun n => (n.id, n) := by
  rw [nodeList, OrderedMap.values, List.map_map]
  refine (List.map_id _).symm.trans (List.map_congr_left fun entry hentry => ?_)
  exact Prod.ext (h.id_of_entry entry hentry).symm rfl

/-- Two indexes of the same nodes are one when they hold the same under every id. -/
theorem index_eq {α : Type} {index index' : OrderedMap Text α} {ids : List Text} {held : Text → α}
    (hkeys : index.keys = ids) (hkeys' : index'.keys = ids)
    (h : ∀ id ∈ ids, index.find? id = some (held id))
    (h' : ∀ id ∈ ids, index'.find? id = some (held id)) : index = index' := by
  refine OrderedMap.eq_of_find?_eq (hkeys.trans hkeys'.symm) fun id hid => ?_
  rw [h id (hkeys ▸ hid), h' id (hkeys ▸ hid)]

/-- **The nodes and the edges of a graph decide its indexes.** -/
theorem Consistent.ext {s t : Snapshot} (hs : s.Consistent) (ht : t.Consistent)
    (hnodes : s.nodeList = t.nodeList) (hedges : s.edges = t.edges)
    (hfindings : s.findings = t.findings) : s = t := by
  have hentries : s.nodes = t.nodes :=
    OrderedMap.ext (by rw [hs.entries_nodes, ht.entries_nodes, hnodes])
  obtain ⟨nodes, edges, adjacency, outgoing, incoming, findings⟩ := s
  obtain ⟨nodes', edges', adjacency', outgoing', incoming', findings'⟩ := t
  obtain rfl : nodes = nodes' := hentries
  obtain rfl : edges = edges' := hedges
  obtain rfl : findings = findings' := hfindings
  obtain rfl : adjacency = adjacency' := index_eq hs.adjacency_keys ht.adjacency_keys
    hs.adjacency_eq ht.adjacency_eq
  obtain rfl : outgoing = outgoing' := index_eq hs.outgoing_keys ht.outgoing_keys
    hs.outgoing_eq ht.outgoing_eq
  obtain rfl : incoming = incoming' := index_eq hs.incoming_keys ht.incoming_keys
    hs.incoming_eq ht.incoming_eq
  rfl

/-- **The five accounts of a graph are one.**  Whatever lies on a canvas, each node stands under its own
id, each index has an entry for every node in the order of the nodes, and the entries hold the edges
that leave and enter the node, in the order of the edges. -/
theorem ofBatches_indexes {nodes : Batch Node} {edges : Batch Edge} {s : Snapshot}
    (h : ofBatches nodes edges = .ok s) :
    s.nodes.keys.Nodup ∧ (∀ id n, (id, n) ∈ s.nodes.entries → n.id = id) ∧
    s.adjacency.keys = s.nodes.keys ∧ s.outgoing.keys = s.nodes.keys ∧
    s.incoming.keys = s.nodes.keys ∧
    (s.edges.map Edge.id).Nodup ∧
    (∀ e ∈ s.edges, e.source ∈ s.nodes.keys ∧ e.target ∈ s.nodes.keys) ∧
    ∀ id ∈ s.nodes.keys,
      s.outgoing.find? id = some (s.edges.filter fun e => e.source = id) ∧
      s.incoming.find? id = some (s.edges.filter fun e => e.target = id) ∧
      s.adjacency.find? id =
        some ((s.edges.filter fun e => e.source = id).map fun e => ⟨e.target, e.id⟩) := by
  have hs := consistent_of_ofBatches h
  refine ⟨s.nodes.nodup_keys, ?_, hs.adjacency_keys, hs.outgoing_keys, hs.incoming_keys,
    hs.edge_ids_nodup, hs.ends, ?_⟩
  · intro id n hentry
    exact hs.id_of_entry (id, n) hentry
  · intro id hid
    exact ⟨hs.outgoing_eq id hid, hs.incoming_eq id hid, hs.adjacency_eq id hid⟩

/-- Entries of all kinds: some are read and some ready-made, and some are nothing, come twice or lead
nowhere. -/
def mixedCanvas : Batch Node × Batch Edge :=
  (.entries [.raw (.int 42), .built ⟨"start", "manual_trigger", [], none, none⟩,
      .raw (.ofFields [("id", .int 7)]), .raw (.ofFields [("id", .text "start")]),
      .raw (.ofFields [("id", .text "form"), ("config", .mapping [(.int 1, .null)])])],
    .entries [.raw .null, .raw (.ofFields [("source", .text "start"), ("target", .int 7)]),
      .built ⟨"start->7", "7", "start", none, none⟩,
      .raw (.ofFields [("id", .text "x"), ("source", .int 7), ("target", .text "ghost")])])

/-- The graph of that canvas. -/
def mixedSnapshot : Snapshot :=
  ofReadings
    [.unreadable, .node ⟨"start", "manual_trigger", [], none, none⟩, .node ⟨"7", "", [], none, none⟩,
      .node ⟨"start", "", [], none, none⟩, .badConfig "form" 1]
    [none, some ⟨"start->7", "start", "7", none, none⟩, some ⟨"start->7", "7", "start", none, none⟩,
      some ⟨"x", "7", "ghost", none, none⟩]

theorem ofBatches_mixedCanvas : ofBatches mixedCanvas.1 mixedCanvas.2 = .ok mixedSnapshot := rfl

/-- Of that canvas two nodes and the edge between them are left. -/
theorem ofBatches_indexes_mixed :
    ofBatches mixedCanvas.1 mixedCanvas.2 = .ok mixedSnapshot ∧
      mixedSnapshot.nodes.keys = (["start", "7"] : List Text) ∧
      mixedSnapshot.adjacency.keys = (["start", "7"] : List Text) ∧
      mixedSnapshot.adjacency.find? "start" = some [⟨"7", "start->7"⟩] ∧
      mixedSnapshot.outgoing.find? "7" = some [] := by
  have hkeys : mixedSnapshot.nodes.keys = (["start", "7"] : List Text) := rfl
  obtain ⟨-, -, hadjacency, -, -, -, -, hheld⟩ := ofBatches_indexes ofBatches_mixedCanvas
  exact ⟨ofBatches_mixedCanvas, hkeys, hadjacency.trans hkeys, (hheld "start" (by decide +kernel)).2.2,
    (hheld "7" (by decide +kernel)).1⟩

end Snapshot

end WorkflowGate
