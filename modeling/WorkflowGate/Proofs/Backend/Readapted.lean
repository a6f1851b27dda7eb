/-
# A graph that is sent on

What a back end is sent is the graph that was judged here, in plain data.  Whoever makes a snapshot of
it in turn gets the same graph: the spellings of the editor are gone, every id reads as itself, and
an edge that was named after its ends now brings that name.  What was left out stays out, so all that
there is to say on the second reading is which nodes have no kind.

* `Node.settled_of_readNode`, `Edge.settled_of_readEdge`: what reading leaves of an entry;
* `Node.Settled.readNode`, `Edge.Settled.readEdge`: such an element reads as itself;
* `ofReadings_self`: a graph whose entries are its own nodes and edges is taken over as it is, since
  these decide the indexes;
* `ofBatches_request`: **the graph that is sent is the graph that was judged.**
-/
import WorkflowGate.Proofs.Backend.Plain
import WorkflowGate.Proofs.Graph.EdgeName

namespace WorkflowGate

/-! ## 1. Ids that read as themselves -/

/-- A text that is not empty spells itself. -/
theorem idOf_text {t : Text} (h : t ≠ Text.empty) : idOf (.text t) = .ok (some t) := by
  have hnamed : t.isEmpty = false := Bool.eq_false_iff.mpr fun he => h (t.isEmpty_iff.mp he)
  simp [idOf, hnamed]

/-- **What a value spells spells itself.** -/
theorem idOf_spelled {v : Value} {id : Option Text} (h : idOf v = .ok id) :
    idOf (Value.ofText? id) = .ok id := by
  cases id with
  | none => rfl
  | some t => exact idOf_text (ne_empty_of_idOf h)

/-- There is always an arrow in the name of an edge. -/
theorem synthesizedId_ne_empty (source target : Text) (sourceHandle targetHandle : Option Text) :
    synthesizedId source target sourceHandle targetHandle ≠ Text.empty := by
  intro h
  have hpoints := congrArg Text.points h
  simp [points_synthesizedId] at hpoints

/-! ## 2. Nodes -/

namespace Value

/-- What stands under a name in plain data is plain data. -/
theorem isPlain_of_get? {es : Entries} (h : (mapping es).isPlain = true) {name : Text} {v : Value}
    (hget : es.get? name = some v) : v.isPlain = true :=
  ((isPlain_mapping_iff es).mp h).2 _ (OrderedMap.mem_of_lookup hget)

theorem isPlain_get {es : Entries} (h : (mapping es).isPlain = true) (name : Text) :
    (es.get name).isPlain = true := by
  rw [Entries.get]
  cases hget : es.get? name with
  | none => rfl
  | some v => exact isPlain_of_get? h hget

/-- The entries of plain data are plain data; there are none if it is no mapping. -/
theorem isPlain_entries {v : Value} (h : v.isPlain = true) :
    (mapping (v.entries?.getD [])).isPlain = true := by
  cases v with
  | mapping es => exact h
  | _ => rfl

/-- The form of a node in plain data is plain data. -/
theorem isPlain_configOf {es : Entries} (h : (mapping es).isPlain = true) :
    (mapping (configOf es (dataOf es))).isPlain = true := by
  have hdata : (mapping (dataOf es)).isPlain = true := isPlain_entries (isPlain_get h "data")
  refine isPlain_entries ?_
  cases hget : (dataOf es).get? "config" with
  | none => exact isPlain_get h "config"
  | some v => exact isPlain_of_get? hdata hget

/-- Null gives way to what stands behind it. -/
theorem null_orElse (v : Value) : null.orElse v = v := rfl

/-- Null behind an id changes nothing: an id that is empty is none. -/
theorem idOf_orElse_null (id : Option Text) :
    idOf ((ofText? id).orElse null) = idOf (ofText? id) := by
  cases id with
  | none => rfl
  | some t => cases hempty : t.isEmpty <;> simp [ofText?, orElse, truthy, idOf, hempty]

/-- Nor does null behind a kind. -/
theorem text?_orElse_null (kind : Text) : ((text kind).orElse null).text?.getD Text.empty = kind := by
  cases hempty : kind.isEmpty with
  | true => simp [orElse, truthy, hempty, text?, (kind.isEmpty_iff.mp hempty).symm]
  | false => simp [orElse, truthy, hempty, text?]

theorem labelOf_ofText? (label : Option Text) : labelOf (ofText? label) = label := by
  cases label <;> rfl

end Value

/-- The form of a node, as entries. -/
def Node.form (n : Node) : Entries := n.config.map fun e => (.text e.1, e.2)

/-- **What reading leaves of a node**: ids that spell themselves, and a form that travels as it is and
is taken over again. -/
structure Node.Settled (n : Node) : Prop where
  id : idOf (.text n.id) = .ok (some n.id)
  parentId : idOf (Value.ofText? n.parentId) = .ok n.parentId
  form_plain : ∀ e ∈ n.form, e.2.isPlain = true
  form_taken : takeConfig n.form = .ok n.form

/-- A node in plain data is settled once it is read. -/
theorem Node.settled_of_readNode {v : Value} {n : Node} (hplain : v.isPlain = true)
    (h : (Entry.raw v).readNode = .ok (.node n)) : n.Settled := by
  cases v with
  | mapping es =>
    obtain ⟨id, hid, h⟩ := Result.bind_eq_ok_iff.mp h
    obtain ⟨form, hform, h⟩ := Result.bind_eq_ok_iff.mp h
    obtain ⟨parentId, hparent, h⟩ := Result.bind_eq_ok_iff.mp h
    cases id with
    | none => cases h
    | some id =>
      have hvalues := (Value.isPlain_mapping_iff _).mp (Value.isPlain_configOf hplain)
      rw [← eq_of_takeConfig hform] at hvalues
      rw [← eq_of_takeConfig hform] at hform
      cases hread : readTextMapping (.mapping form) with
      | bad errors => simp [hread, pure, Except.pure] at h
      | good fields =>
        obtain rfl := Value.mapping.inj ((readTextMapping_eq_good_iff _ _).mp hread)
        simp only [hread] at h
        cases h
        exact ⟨idOf_spelled hid, idOf_spelled hparent, hvalues.2, hform⟩
  | _ => cases h

/-- The form of a settled node travels as it is. -/
theorem Node.Settled.portable_eq {n : Node} (h : n.Settled) : n.portable = Value.ofFields
    [("id", .text n.id), ("kind", .text n.kind), ("config", .mapping n.form),
      ("label", Value.ofText? n.label), ("parent_id", Value.ofText? n.parentId)] := by
  have hform : (n.config.map fun e => (Key.text e.1, e.2.portable)) = n.form :=
    List.map_congr_left fun e he => by
      rw [Value.portable_of_isPlain e.2 (h.form_plain _ (List.mem_map_of_mem he))]
  rw [Node.portable, hform]

/-- **A settled node reads as itself.**  It has one spelling left, so each part of it is what stands
under its own name. -/
theorem Node.Settled.readNode {n : Node} (h : n.Settled) :
    (Entry.raw n.portable).readNode = .ok (.node n) := by
  have hform : readTextMapping (.mapping n.form) = .good n.config :=
    (readTextMapping_eq_good_iff _ _).mpr rfl
  have hparent : idOf ((Value.ofText? n.parentId).orElse .null) = .ok n.parentId :=
    (Value.idOf_orElse_null n.parentId).trans h.parentId
  rw [h.portable_eq, Value.ofFields]
  simp [Entry.readNode, nodeOfEntries, dataOf, configOf, Entries.get, Entries.get?,
    OrderedMap.lookup, Value.entries?, firstTruthy, Value.null_orElse, Value.text?_orElse_null,
    Value.labelOf_ofText?, h.id, h.form_taken, hparent, hform, bind, Except.bind, pure, Except.pure]

/-! ## 3. Edges -/

/-- **What reading leaves of an edge**: all of its names spell themselves. -/
structure Edge.Settled (e : Edge) : Prop where
  id : idOf (.text e.id) = .ok (some e.id)
  source : idOf (.text e.source) = .ok (some e.source)
  target : idOf (.text e.target) = .ok (some e.target)
  sourceHandle : idOf (Value.ofText? e.sourceHandle) = .ok e.sourceHandle
  targetHandle : idOf (Value.ofText? e.targetHandle) = .ok e.targetHandle

/-- An edge is settled once it is read, whether it brings an id or is named after its ends. -/
theorem Edge.settled_of_readEdge {v : Value} {e : Edge}
    (h : (Entry.raw v).readEdge = .ok (some e)) : e.Settled := by
  cases v with
  | mapping es =>
    obtain ⟨source, hsource, h⟩ := Result.bind_eq_ok_iff.mp h
    obtain ⟨target, htarget, h⟩ := Result.bind_eq_ok_iff.mp h
    obtain ⟨sourceHandle, hsourceHandle, h⟩ := Result.bind_eq_ok_iff.mp h
    obtain ⟨targetHandle, htargetHandle, h⟩ := Result.bind_eq_ok_iff.mp h
    obtain ⟨id, hid, h⟩ := Result.bind_eq_ok_iff.mp h
    match source, target with
    | some source, some target =>
      cases h
      refine ⟨?_, idOf_spelled hsource, idOf_spelled htarget, idOf_spelled hsourceHandle,
        idOf_spelled htargetHandle⟩
      cases id with
      | none => exact idOf_text (synthesizedId_ne_empty _ _ _ _)
      | some id => exact idOf_spelled hid
    | some _, none => cases h
    | none, _ => cases h
  | _ => cases h

/-- **A settled edge reads as itself.** -/
theorem Edge.Settled.readEdge {e : Edge} (h : e.Settled) :
    (Entry.raw e.portable).readEdge = .ok (some e) := by
  rw [Edge.portable, Value.ofFields]
  simp [Entry.readEdge, edgeOfEntries, handleOf, Entries.get, Entries.get?, OrderedMap.lookup,
    h.id, h.source, h.target, h.sourceHandle, h.targetHandle, bind, Except.bind, pure, Except.pure]

namespace Snapshot

/-! ## 4. Graphs whose elements read as themselves -/

/-- **A graph whose entries are its own nodes and edges is taken over as it is**; all that there is to
say is which nodes have no kind. -/
theorem ofReadings_self {s : Snapshot} (h : s.Consistent) :
    ofReadings (s.nodeList.map .node) (s.edges.map some) =
      { s with findings := s.nodeList.flatMap kindFindings } := by
  have hbooks := balanced_ofReadings (s.nodeList.map .node) (s.edges.map some)
  have hagain := consistent_ofReadings (s.nodeList.map .node) (s.edges.map some)
  generalize ofReadings (s.nodeList.map .node) (s.edges.map some) = t at hbooks hagain ⊢
  have hnodeIds : (s.nodeList.map Node.id).Nodup := h.map_id_nodeList ▸ s.nodes.nodup_keys
  obtain ⟨hnodes, hedges, hfindings⟩ := hbooks.of_distinct hnodeIds h.edge_ids_nodup
  have hkeys : t.nodes.keys = s.nodes.keys := by
    rw [← hagain.map_id_nodeList, hnodes, h.map_id_nodeList]
  have halone (e : Edge) (he : e ∈ s.edges) : EdgeFate.alone t.nodes.keys e = .accepted e := by
    rw [EdgeFate.alone, hkeys, if_pos (h.ends e he)]
  have hkept : t.edges = s.edges := by
    rw [hedges, List.filterMap_congr fun e he => congrArg EdgeFate.edge? (halone e he)]
    exact List.filterMap_some
  have hquiet : t.findings = s.nodeList.flatMap kindFindings := by
    rw [hfindings, List.flatMap_congr fun e he => congrArg (edgeFindings 0) (halone e he)]
    simp [edgeFindings]
  exact hagain.ext (h.withFindings _) hnodes hkept hquiet

/-! ## 5. What is sent on -/

/-- The nodes and the edges of a graph, in plain data, as they are handed on. -/
def handedOn (s : Snapshot) : Batch Node × Batch Edge :=
  (.ofValue (.list (s.nodeList.map Node.portable)), .ofValue (.list (s.edges.map Edge.portable)))

/-- **A graph whose elements are settled is handed on as it is.** -/
theorem ofBatches_handedOn {s : Snapshot} (hs : s.Consistent)
    (hnodes : ∀ n ∈ s.nodeList, n.Settled) (hedges : ∀ e ∈ s.edges, e.Settled) :
    ofBatches s.handedOn.1 s.handedOn.2 =
      .ok { s with findings := s.nodeList.flatMap kindFindings } := by
  have hnodeReadings : ((s.nodeList.map Node.portable).map Entry.raw).mapM Entry.readNode =
      .ok (s.nodeList.map .node) := by
    rw [List.map_map, List.mapM_map]
    exact Result.mapM_eq_ok fun n hn => (hnodes n hn).readNode
  have hedgeReadings : ((s.edges.map Edge.portable).map Entry.raw).mapM Entry.readEdge =
      .ok (s.edges.map some) := by
    rw [List.map_map, List.mapM_map]
    exact Result.mapM_eq_ok fun e he => (hedges e he).readEdge
  exact ofBatches_eq_ok_iff.mpr ⟨_, _, _, _, ⟨rfl, hnodeReadings⟩, ⟨rfl, hedgeReadings⟩,
    (ofReadings_self hs).symm⟩

/-- A request holds the nodes and the edges as they are handed on, whatever is to be checked. -/
theorem exists_entries_of_request {s : Snapshot} {flags : CheckFlags} {body : Value}
    (h : s.request flags = .ok body) : ∃ entries, body = .mapping entries ∧ s.handedOn =
      (.ofValue (Entries.get entries "nodes"), .ofValue (Entries.get entries "edges")) := by
  unfold request at h
  split at h
  · cases h
  · cases h
    refine ⟨_, rfl, ?_⟩
    simp [handedOn, Entries.get, Entries.get?, OrderedMap.lookup]

/-- **The graph that is sent is the graph that was judged.**  What was made of plain data is handed on
with the same nodes, edges and indexes, and there is nothing to say about it but which nodes have no
kind; and every request holds it so. -/
theorem ofBatches_request {ns es : List Value} {s : Snapshot} (hplain : ∀ v ∈ ns, v.isPlain = true)
    (h : ofBatches (.ofValue (.list ns)) (.ofValue (.list es)) = .ok s) :
    ofBatches s.handedOn.1 s.handedOn.2 =
        .ok { s with findings := s.nodeList.flatMap kindFindings } ∧
      ∀ flags body, s.request flags = .ok body → ∃ entries, body = .mapping entries ∧
        ofBatches (.ofValue (Entries.get entries "nodes")) (.ofValue (Entries.get entries "edges")) =
          .ok { s with findings := s.nodeList.flatMap kindFindings } := by
  have hs := consistent_of_ofBatches h
  obtain ⟨nodeEntries, edgeEntries, nodeReadings, edgeReadings, ⟨hentries, hnodeReadings⟩,
    ⟨hentries', hedgeReadings⟩, rfl⟩ := ofBatches_eq_ok_iff.mp h
  obtain rfl : ns.map Entry.raw = nodeEntries := Except.ok.inj hentries
  obtain rfl : es.map Entry.raw = edgeEntries := Except.ok.inj hentries'
  have hbooks := balanced_ofReadings nodeReadings edgeReadings
  have hnodes : ∀ n ∈ (ofReadings nodeReadings edgeReadings).nodeList, n.Settled := by
    intro n hn
    obtain ⟨entry, hentry, hread⟩ := Result.exists_of_mem_mapM hnodeReadings (hbooks.node_mem hn)
    obtain ⟨v, hv, rfl⟩ := List.mem_map.mp hentry
    exact Node.settled_of_readNode (hplain v hv) hread
  have hedges : ∀ e ∈ (ofReadings nodeReadings edgeReadings).edges, e.Settled := by
    intro e he
    obtain ⟨entry, hentry, hread⟩ := Result.exists_of_mem_mapM hedgeReadings (hbooks.edge_mem he)
    obtain ⟨v, -, rfl⟩ := List.mem_map.mp hentry
    exact Edge.settled_of_readEdge hread
  have hhanded := ofBatches_handedOn hs hnodes hedges
  refine ⟨hhanded, fun flags body hrequest => ?_⟩
  obtain ⟨entries, hbody, hsent⟩ := exists_entries_of_request hrequest
  rw [hsent] at hhanded
  exact ⟨entries, hbody, hhanded⟩

/-- A canvas in the spelling of the editor: ids that are integers, an edge without an id, a node without
a kind, one that comes twice and an edge that leads nowhere. -/
def editorCanvas : List Value × List Value :=
  ([.ofFields [("id", .int 7), ("label", .text "Check"), ("parentNode", .text ""),
        ("data", .ofFields [("nodeType", .text "if"), ("label", .text ""),
          ("config", .ofFields [("limits", .ofFields [("max", .int 3)]),
            ("tags", .list [.text "a", .null])])])],
      .ofFields [("id", .text "out"), ("kind", .null), ("parentId", .int 7)],
      .ofFields [("id", .text "out"), ("kind", .text "set")]],
    [.ofFields [("source", .int 7), ("target", .text "out"), ("sourceHandle", .text "true")],
      .ofFields [("id", .int 0), ("source", .text "out"), ("target", .text "ghost")]])

/-- The graph of that canvas. -/
def editorSnapshot : Snapshot :=
  ofReadings
    [.node ⟨"7", "if", [("limits", .ofFields [("max", .int 3)]), ("tags", .list [.text "a", .null])],
        some "Check", none⟩,
      .node ⟨"out", "", [], none, some "7"⟩, .node ⟨"out", "set", [], none, none⟩]
    [some ⟨"7:true->out", "7", "out", some "true", none⟩, some ⟨"0", "out", "ghost", none, none⟩]

/-- What is left of that graph once it is handed on: the same, but for what was said of the canvas. -/
def editorSnapshotAgain : Snapshot :=
  { editorSnapshot with
    findings := [.warning .missingNodeKind "Node \"out\" has no node type" (some "out")] }

/-- Of three findings on that canvas one is left when its graph is handed on, in a request or not. -/
theorem ofBatches_request_editor :
    (∀ v ∈ editorCanvas.1, v.isPlain = true) ∧
      ofBatches (.ofValue (.list editorCanvas.1)) (.ofValue (.list editorCanvas.2)) =
        .ok editorSnapshot ∧
      editorSnapshot.findings.map Finding.code =
        [.missingNodeKind, .duplicateNodeId, .unknownEdgeTarget] ∧
      ofBatches editorSnapshot.handedOn.1 editorSnapshot.handedOn.2 = .ok editorSnapshotAgain ∧
      ∃ entries, editorSnapshot.request {} = .ok (.mapping entries) ∧
        ofBatches (.ofValue (Entries.get entries "nodes")) (.ofValue (Entries.get entries "edges")) =
          .ok editorSnapshotAgain := by
  have hplain : ∀ v ∈ editorCanvas.1, v.isPlain = true := by decide +kernel
  have hsnapshot : ofBatches (.ofValue (.list editorCanvas.1)) (.ofValue (.list editorCanvas.2)) =
      .ok editorSnapshot := rfl
  obtain ⟨hhanded, hsent⟩ := ofBatches_request hplain hsnapshot
  obtain ⟨body, hrequest⟩ : ∃ body, editorSnapshot.request {} = .ok body := ⟨_, rfl⟩
  obtain ⟨entries, rfl, hread⟩ := hsent {} body hrequest
  exact ⟨hplain, hsnapshot, rfl, hhanded, entries, hrequest, hread⟩

end Snapshot

end WorkflowGate
