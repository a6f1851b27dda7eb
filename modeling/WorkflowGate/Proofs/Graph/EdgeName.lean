/-
# Names of edges without an id

An edge that brings no id is named after its ends and handles, with a colon before a handle and an
arrow between the ends.  The marks may occur in ids and handles, and then two different edges can have
one name: the later one is taken for a duplicate.  Where the marks stand for nothing else, edges with
one name connect the same.

* `endName_inj`: an end tells its node and its handle apart;
* `Edge.connection_eq_of_name_eq`: plainly named edges with one name connect the same;
* `edges_ofReadings_some_iff`: a canvas takes all edges between its nodes when no id comes twice;
* `ofBatches_unnamed_edges`: of edges without an id a canvas takes all exactly when their names differ,
  and plain names of different connections do;
* `unnamed_edges_collide`: a node that is named like a branch of another one costs that one the branch.
-/
import Mathlib.Data.List.Infix
import Mathlib.Data.List.Nodup
import WorkflowGate.Proofs.Graph.Ledger

namespace WorkflowGate

/-! ## 1. Taking a list apart at a mark -/

section Marks

variable {α : Type} {p q : α}

/-- What stands before the first mark, and what after it. -/
theorem eq_of_append_mark {mark : α} {x x' y y' : List α} (h : x ++ mark :: y = x' ++ mark :: y')
    (hx : mark ∉ x) (hx' : mark ∉ x') : x = x' ∧ y = y' := by
  induction x generalizing x' with
  | nil =>
    cases x' with
    | nil => exact ⟨rfl, (List.cons.inj h).2⟩
    | cons a rest => exact absurd ((List.cons.inj h).1 ▸ List.mem_cons_self) hx'
  | cons a rest ih =>
    cases x' with
    | nil => exact absurd ((List.cons.inj h).1 ▸ List.mem_cons_self) hx
    | cons a' rest' =>
      obtain ⟨rfl, hrest⟩ := List.cons.inj h
      obtain ⟨rfl, rfl⟩ := ih hrest (fun hm => hx (List.mem_cons_of_mem _ hm))
        fun hm => hx' (List.mem_cons_of_mem _ hm)
      exact ⟨rfl, rfl⟩

/-- No arrow begins inside what stands before an arrow, unless there is one in it. -/
theorem eq_nil_of_arrow {w y y' : List α} (hne : p ≠ q) (h : p :: q :: y = w ++ p :: q :: y')
    (hw : ¬ [p, q] <:+: w) : w = [] := by
  rcases w with _ | ⟨a, _ | ⟨b, rest⟩⟩
  · rfl
  · obtain ⟨-, hrest⟩ := List.cons.inj h
    exact absurd (List.cons.inj hrest).1.symm hne
  · obtain ⟨rfl, hrest⟩ := List.cons.inj h
    obtain ⟨rfl, -⟩ := List.cons.inj hrest
    exact absurd (List.prefix_append [p, q] rest).isInfix hw

/-- What stands before the first arrow, and what after it. -/
theorem eq_of_append_arrow {x x' y y' : List α} (hne : p ≠ q)
    (h : x ++ p :: q :: y = x' ++ p :: q :: y') (hx : ¬ [p, q] <:+: x) (hx' : ¬ [p, q] <:+: x') :
    x = x' ∧ y = y' := by
  rcases List.append_eq_append_iff.mp h with ⟨w, rfl, hrest⟩ | ⟨w, rfl, hrest⟩
  · obtain rfl := eq_nil_of_arrow hne hrest fun hw => hx' (hw.trans (List.suffix_append x w).isInfix)
    simpa using hrest
  · obtain rfl := eq_nil_of_arrow hne hrest fun hw => hx (hw.trans (List.suffix_append x' w).isInfix)
    simpa [eq_comm] using hrest

/-- A mark that is no part of an arrow makes none. -/
theorem not_arrow_infix_append {mark : α} {x y : List α} (hp : p ≠ mark) (hq : q ≠ mark)
    (hx : ¬ [p, q] <:+: x) (hy : ¬ [p, q] <:+: y) : ¬ [p, q] <:+: x ++ mark :: y := by
  intro h
  induction x with
  | nil =>
    rcases List.infix_cons_iff.mp h with h | h
    · exact hp (List.cons_prefix_cons.mp h).1
    · exact hy h
  | cons a rest ih =>
    rcases List.infix_cons_iff.mp h with h | h
    · obtain ⟨rfl, hrest⟩ := List.cons_prefix_cons.mp h
      cases rest with
      | nil => exact hq (List.cons_prefix_cons.mp hrest).1
      | cons b rest =>
        obtain ⟨rfl, -⟩ := List.cons_prefix_cons.mp hrest
        exact hx (List.prefix_append [p, q] rest).isInfix
    · exact ih (fun hrest => hx (hrest.trans (List.suffix_cons a rest).isInfix)) h

end Marks

/-! ## 2. Names of edges -/

/-- What an edge connects: its ends and their handles. -/
def Edge.connection (e : Edge) : Text × Option Text × Text × Option Text :=
  (e.source, e.sourceHandle, e.target, e.targetHandle)

/-- The name that an edge has when it brings none. -/
def Edge.name (e : Edge) : Text := synthesizedId e.source e.target e.sourceHandle e.targetHandle

/-- **An edge is plainly named** when the marks of a name stand for nothing else: there is no colon in
the id of a node, and no arrow in that of the source or in its handle. -/
structure Edge.PlainlyNamed (e : Edge) : Prop where
  source_colon : ¬ e.source.contains ":"
  target_colon : ¬ e.target.contains ":"
  source_arrow : ¬ e.source.contains "->"
  handle_arrow : ∀ handle ∈ e.sourceHandle, ¬ handle.contains "->"

instance (e : Edge) : Decidable e.PlainlyNamed :=
  decidable_of_iff (¬ e.source.contains ":" ∧ ¬ e.target.contains ":" ∧ ¬ e.source.contains "->" ∧
      ∀ handle ∈ e.sourceHandle, ¬ handle.contains "->")
    ⟨fun ⟨hsource, htarget, htail, hhandle⟩ => ⟨hsource, htarget, htail, hhandle⟩,
      fun h => ⟨h.source_colon, h.target_colon, h.source_arrow, h.handle_arrow⟩⟩

theorem Text.eq_of_points {s t : Text} (h : s.points = t.points) : s = t := by
  cases s
  exact congrArg Text.mk h

theorem Text.contains_colon_iff (t : Text) :
    t.contains ":" = true ↔ CodePoint.ofChar ':' ∈ t.points :=
  (t.contains_iff _).trans (List.singleton_infix_iff _ _)

theorem Text.contains_arrow_iff (t : Text) : t.contains "->" = true ↔
    [CodePoint.ofChar '-', CodePoint.ofChar '>'] <:+: t.points := t.contains_iff _

/-- The end at a named handle, up to the colon and from there on. -/
theorem points_endName_of_named {node t : Text} (h : Edge.namedHandle (some t) = some t) :
    (endName node (some t)).points = node.points ++ CodePoint.ofChar ':' :: t.points := by
  rw [endName, h, Text.points_append, Text.points_append, List.append_assoc]
  rfl

/-- **An end tells its node and its handle apart** when there is no colon in the ids of nodes. -/
theorem endName_inj {node node' : Text} {handle handle' : Option Text}
    (hnode : ¬ node.contains ":") (hnode' : ¬ node'.contains ":")
    (hnamed : Edge.namedHandle handle = handle) (hnamed' : Edge.namedHandle handle' = handle')
    (h : endName node handle = endName node' handle') : node = node' ∧ handle = handle' := by
  rw [Text.contains_colon_iff] at hnode hnode'
  have hpoints := congrArg Text.points h
  match handle, handle' with
  | none, none => exact ⟨h, rfl⟩
  | none, some t' =>
    rw [points_endName_of_named hnamed', endName_of_unnamed] at hpoints
    exact absurd (hpoints ▸ List.mem_append_right _ List.mem_cons_self) hnode
  | some t, none =>
    rw [points_endName_of_named hnamed, endName_of_unnamed] at hpoints
    exact absurd (hpoints ▸ List.mem_append_right _ List.mem_cons_self) hnode'
  | some t, some t' =>
    rw [points_endName_of_named hnamed, points_endName_of_named hnamed'] at hpoints
    obtain ⟨hn, ht⟩ := eq_of_append_mark hpoints hnode hnode'
    exact ⟨Text.eq_of_points hn, congrArg some (Text.eq_of_points ht)⟩

/-- An end brings no arrow of its own. -/
theorem not_arrow_endName {node : Text} {handle : Option Text} (hnode : ¬ node.contains "->")
    (hhandle : ∀ t ∈ handle, ¬ t.contains "->")
    (hnamed : Edge.namedHandle handle = handle) : ¬ (endName node handle).contains "->" := by
  match handle with
  | none => exact hnode
  | some t =>
    rw [Text.contains_arrow_iff, points_endName_of_named hnamed]
    rw [Text.contains_arrow_iff] at hnode
    exact not_arrow_infix_append (by decide) (by decide) hnode
      ((Text.contains_arrow_iff t).not.mp (hhandle t rfl))

theorem points_synthesizedId (source target : Text) (sourceHandle targetHandle : Option Text) :
    (synthesizedId source target sourceHandle targetHandle).points =
      (endName source sourceHandle).points ++ CodePoint.ofChar '-' :: CodePoint.ofChar '>' ::
        (endName target targetHandle).points := by
  rw [synthesizedId, Text.points_append, Text.points_append, List.append_assoc]
  rfl

/-- The handles of an edge have a name if they are there at all. -/
structure Edge.HandlesNamed (e : Edge) : Prop where
  source : Edge.namedHandle e.sourceHandle = e.sourceHandle
  target : Edge.namedHandle e.targetHandle = e.targetHandle

/-- **Plainly named edges with one name connect the same.** -/
theorem Edge.connection_eq_of_name_eq {d e : Edge} (hd : d.PlainlyNamed) (he : e.PlainlyNamed)
    (hdHandles : d.HandlesNamed) (heHandles : e.HandlesNamed) (h : d.name = e.name) :
    d.connection = e.connection := by
  have hpoints := congrArg Text.points h
  rw [Edge.name, Edge.name, points_synthesizedId, points_synthesizedId] at hpoints
  -- the arrow between the ends is the first one in the name
  have hdTail := not_arrow_endName hd.source_arrow hd.handle_arrow hdHandles.source
  have heTail := not_arrow_endName he.source_arrow he.handle_arrow heHandles.source
  rw [Text.contains_arrow_iff] at hdTail heTail
  obtain ⟨htail, hhead⟩ := eq_of_append_arrow (by decide) hpoints hdTail heTail
  obtain ⟨hsource, hsourceHandle⟩ := endName_inj hd.source_colon he.source_colon hdHandles.source
    heHandles.source (Text.eq_of_points htail)
  obtain ⟨htarget, htargetHandle⟩ := endName_inj hd.target_colon he.target_colon hdHandles.target
    heHandles.target (Text.eq_of_points hhead)
  rw [Edge.connection, Edge.connection, hsource, hsourceHandle, htarget, htargetHandle]

/-! ## 3. Reading edges without an id -/

theorem toString_int_ne_empty (i : Int) : toString i ≠ "" := by
  cases i with
  | ofNat n => exact Nat.repr_ne_empty
  | negSucc n =>
    intro h
    have hlength := congrArg String.length h
    simp [toString, Int.repr] at hlength

/-- What spells an id is not empty. -/
theorem ne_empty_of_idOf {v : Value} {t : Text} (h : idOf v = .ok (some t)) : t ≠ Text.empty := by
  cases v with
  | text u =>
    rintro rfl
    by_cases hu : u.isEmpty = true
    · simp [idOf, hu] at h
    · simp only [idOf, hu] at h
      cases h
      exact hu rfl
  | int i =>
    simp only [idOf, writeInteger] at h
    split at h
    · cases h
      exact fun hempty => toString_int_ne_empty i (Text.ofString_inj.mp hempty)
    · cases h
  | _ => cases h

theorem namedHandle_of_handleOf {es : Entries} {name other : Text} {handle : Option Text}
    (h : handleOf es name other = .ok handle) : Edge.namedHandle handle = handle := by
  cases handle with
  | none => rfl
  | some t =>
    have hne : t.isEmpty = false :=
      Bool.eq_false_iff.mpr fun he => ne_empty_of_idOf h (t.isEmpty_iff.mp he)
    simp [Edge.namedHandle, hne]

/-- What a mapping without an id gives: an edge that bears its name, and whose handles have one. -/
theorem id_eq_name_of_edgeOfEntries {es : Entries} {e : Edge} (hid : idOf (es.get "id") = .ok none)
    (h : edgeOfEntries es = .ok (some e)) : e.id = e.name ∧ e.HandlesNamed := by
  obtain ⟨source, -, h⟩ := Result.bind_eq_ok_iff.mp h
  obtain ⟨target, -, h⟩ := Result.bind_eq_ok_iff.mp h
  obtain ⟨sourceHandle, hsource, h⟩ := Result.bind_eq_ok_iff.mp h
  obtain ⟨targetHandle, htarget, h⟩ := Result.bind_eq_ok_iff.mp h
  obtain ⟨id, hid', h⟩ := Result.bind_eq_ok_iff.mp h
  obtain rfl : none = id := Except.ok.inj (hid.symm.trans hid')
  match source, target with
  | some source, some target =>
    cases h
    exact ⟨rfl, namedHandle_of_handleOf hsource, namedHandle_of_handleOf htarget⟩
  | some _, none => cases h
  | none, _ => cases h

namespace Snapshot

/-! ## 4. Canvases whose edges bring no id -/

/-- **Edges between nodes are all accepted** when no id comes twice. -/
theorem edgeFates_some {nodes : List Text} {edges : List Edge}
    (hends : ∀ e ∈ edges, e.source ∈ nodes ∧ e.target ∈ nodes) (hids : (edges.map Edge.id).Nodup) :
    edgeFates nodes (edges.map some) = edges.map EdgeFate.accepted := by
  rw [edgeFates_alone nodes hids]
  refine List.map_congr_left fun e he => ?_
  rw [EdgeFate.alone, if_pos (hends e he)]

/-- **A canvas takes all of its edges exactly when no id comes twice**, if they run between nodes. -/
theorem edges_ofReadings_some_iff {nodeReadings : List NodeReading} {edges : List Edge}
    (hends : ∀ e ∈ edges, e.source ∈ (ofReadings nodeReadings []).nodes.keys ∧
      e.target ∈ (ofReadings nodeReadings []).nodes.keys) :
    ((ofReadings nodeReadings (edges.map some)).edges = edges ∧
      ∀ f ∈ (ofReadings nodeReadings (edges.map some)).findings, f.code ≠ .duplicateEdgeId) ↔
        (edges.map Edge.id).Nodup := by
  constructor
  · intro h
    rw [← h.1]
    exact (consistent_ofReadings nodeReadings (edges.map some)).edge_ids_nodup
  · intro hids
    have hbooks := balanced_ofReadings nodeReadings (edges.map some)
    have hfates : edgeFates (ofReadings nodeReadings (edges.map some)).nodes.keys (edges.map some) =
        edges.map EdgeFate.accepted := by
      rw [nodes_ofReadings]
      exact edgeFates_some hends hids
    constructor
    · rw [hbooks.edges, hfates, List.filterMap_map]
      exact List.filterMap_some
    · intro f hf hcode
      have hmem := List.mem_map_of_mem (f := Finding.code) hf
      rw [hbooks.codes, hfates, hcode, List.mem_append] at hmem
      rcases hmem with hmem | hmem
      · exact NodeFate.not_mem_codes (by decide) _ hmem
      · simp [List.flatMap_map, EdgeFate.codes] at hmem

/-- Edges that are handed over as mappings. -/
def edgeBatch (mappings : List Entries) : Batch Edge :=
  .entries (mappings.map fun es => .raw (.mapping es))

theorem mapM_readEdge_edgeBatch (mappings : List Entries) :
    (mappings.map fun es => Entry.raw (.mapping es)).mapM Entry.readEdge =
      mappings.mapM edgeOfEntries := List.mapM_map

/-- **Edges without an id are told apart by their names.**  If they run between nodes, a canvas takes
all of them, without a word on duplicates, exactly when no two have one name; and of edges that differ
in an end or a handle no two have, when they are plainly named. -/
theorem ofBatches_unnamed_edges {nodes : Batch Node} {base : Snapshot} {mappings : List Entries}
    {edges : List Edge} (hnodes : ofBatches nodes (.entries []) = .ok base)
    (hread : mappings.mapM edgeOfEntries = .ok (edges.map some))
    (hidless : ∀ es ∈ mappings, idOf (es.get "id") = .ok none)
    (hends : ∀ e ∈ edges, e.source ∈ base.nodes.keys ∧ e.target ∈ base.nodes.keys) :
    ∃ s, ofBatches nodes (edgeBatch mappings) = .ok s ∧ s.nodes = base.nodes ∧
      ((s.edges = edges ∧ ∀ f ∈ s.findings, f.code ≠ .duplicateEdgeId) ↔
        (edges.map Edge.name).Nodup) ∧
      ((edges.map Edge.connection).Nodup → (∀ e ∈ edges, e.PlainlyNamed) →
        s.edges = edges ∧ ∀ f ∈ s.findings, f.code ≠ .duplicateEdgeId) := by
  obtain ⟨ns, _, nodeReadings, _, hnodeReadings, ⟨hnone, hempty⟩, rfl⟩ :=
    ofBatches_eq_ok_iff.mp hnodes
  cases hnone
  cases hempty
  have hnamed : ∀ e ∈ edges, e.id = e.name ∧ e.HandlesNamed := by
    intro e he
    obtain ⟨es, hes, heq⟩ := Result.exists_of_mem_mapM hread (List.mem_map_of_mem he)
    exact id_eq_name_of_edgeOfEntries (hidless es hes) heq
  have hids : edges.map Edge.id = edges.map Edge.name :=
    List.map_congr_left fun e he => (hnamed e he).1
  have htaken := edges_ofReadings_some_iff hends
  rw [hids] at htaken
  refine ⟨ofReadings nodeReadings (edges.map some), ?_, nodes_ofReadings _ _, htaken, ?_⟩
  · exact ofBatches_eq_ok_iff.mpr ⟨ns, _, nodeReadings, _, hnodeReadings,
      ⟨rfl, (mapM_readEdge_edgeBatch mappings).trans hread⟩, rfl⟩
  · intro hconnections hplain
    refine htaken.mpr (List.Nodup.map_on (fun d hd e he h => ?_) (List.Nodup.of_map _ hconnections))
    exact List.inj_on_of_nodup_map hconnections hd he (Edge.connection_eq_of_name_eq (hplain d hd)
      (hplain e he) (hnamed d hd).2 (hnamed e he).2 h)

/-- Two nodes, and an edge from each branch of the one to the other. -/
def forkCanvas : Batch Node × List Entries :=
  (.entries [.raw (.ofFields [("id", .text "check"), ("kind", .text "if")]),
      .raw (.ofFields [("id", .text "out"), ("kind", .text "set")])],
    [[(.text "source", .text "check"), (.text "target", .text "out"),
        (.text "sourceHandle", .text "true")],
      [(.text "source", .text "check"), (.text "target", .text "out"),
        (.text "sourceHandle", .text "false")]])

/-- The edges of the branches, under their names. -/
def forkEdges : List Edge :=
  [⟨"check:true->out", "check", "out", some "true", none⟩,
    ⟨"check:false->out", "check", "out", some "false", none⟩]

/-- Their handles tell the two branches apart. -/
theorem ofBatches_unnamed_edges_branches :
    forkCanvas.2.mapM edgeOfEntries = .ok (forkEdges.map some) ∧
      ∃ s, ofBatches forkCanvas.1 (edgeBatch forkCanvas.2) = .ok s ∧ s.edges = forkEdges ∧
        ∀ f ∈ s.findings, f.code ≠ .duplicateEdgeId := by
  have hnodes : ofBatches forkCanvas.1 (.entries []) = .ok (ofReadings
      [.node ⟨"check", "if", [], none, none⟩, .node ⟨"out", "set", [], none, none⟩] []) := rfl
  have hread : forkCanvas.2.mapM edgeOfEntries = .ok (forkEdges.map some) := rfl
  have hidless : ∀ es ∈ forkCanvas.2, idOf (es.get "id") = .ok none :=
    List.forall_mem_cons.mpr ⟨rfl, List.forall_mem_singleton.mpr rfl⟩
  obtain ⟨s, hs, -, -, hplain⟩ :=
    ofBatches_unnamed_edges hnodes hread hidless (by decide +kernel)
  exact ⟨hread, s, hs, hplain (by decide +kernel) (by decide +kernel)⟩

/-- A trigger, a node with two branches, a node that is named like the second of them, and a last one.
Both branches get to the last one, the first through the node of that name. -/
def lookalikeCanvas : Batch Node × List Entries :=
  (.entries [.raw (.ofFields [("id", .text "T"), ("kind", .text "manual_trigger")]),
      .raw (.ofFields [("id", .text "check"), ("kind", .text "if")]),
      .raw (.ofFields [("id", .text "check:false"), ("kind", .text "set")]),
      .raw (.ofFields [("id", .text "out"), ("kind", .text "set")])],
    [[(.text "source", .text "T"), (.text "target", .text "check")],
      [(.text "source", .text "check"), (.text "sourceHandle", .text "true"),
        (.text "target", .text "check:false")],
      [(.text "source", .text "check:false"), (.text "target", .text "out")],
      [(.text "source", .text "check"), (.text "sourceHandle", .text "false"),
        (.text "target", .text "out")]])

/-- The edges of that canvas, under their names. -/
def lookalikeEdges : List Edge :=
  [⟨"T->check", "T", "check", none, none⟩,
    ⟨"check:true->check:false", "check", "check:false", some "true", none⟩,
    ⟨"check:false->out", "check:false", "out", none, none⟩,
    ⟨"check:false->out", "check", "out", some "false", none⟩]

/-- **Two edges that differ may have one name**, and then the second branch is lost: all four edges run
between nodes and no two connect the same, but three are taken and the last one is called a
duplicate. -/
theorem unnamed_edges_collide :
    lookalikeCanvas.2.mapM edgeOfEntries = .ok (lookalikeEdges.map some) ∧
      (∀ es ∈ lookalikeCanvas.2, idOf (es.get "id") = .ok none) ∧
      (lookalikeEdges.map Edge.connection).Nodup ∧
      ∃ s, ofBatches lookalikeCanvas.1 (edgeBatch lookalikeCanvas.2) = .ok s ∧
        (∀ e ∈ lookalikeEdges, e.source ∈ s.nodes.keys ∧ e.target ∈ s.nodes.keys) ∧
        s.edges = lookalikeEdges.take 3 ∧
        s.findings = [.warning .duplicateEdgeId
          "Duplicate edge id 'check:false->out'; only the first occurrence is used"] := by
  refine ⟨rfl, ?_, by decide +kernel, ofReadings
    [.node ⟨"T", "manual_trigger", [], none, none⟩, .node ⟨"check", "if", [], none, none⟩,
      .node ⟨"check:false", "set", [], none, none⟩, .node ⟨"out", "set", [], none, none⟩]
    (lookalikeEdges.map some), rfl, by decide +kernel, by decide +kernel, by decide +kernel⟩
  simp only [lookalikeCanvas, List.forall_mem_cons]
  exact ⟨rfl, rfl, rfl, rfl, List.forall_mem_nil _⟩

end Snapshot

end WorkflowGate
