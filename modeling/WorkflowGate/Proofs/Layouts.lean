/-
# One canvas in several layouts

There are five ways to hand over a node and three to hand over an edge: flat mappings with one set of
names or the other, the payload of the editor with the group outside or inside, and elements that are
ready made.  What somebody means by a canvas is said once, in a *description* of each node and of each
edge; a *layout* of each one turns it into an entry.  Layouts may be chosen entry by entry.

Reading gets the description back from every layout, except that the payload of the editor loses a label
that is empty and a mapping loses a handle that is empty.  Tidied, the graphs are the same, and a run
does not tell a graph from the tidied one.  One thing only is left to the layout: a form whose values
stand too deep within others is not taken over from a mapping.

* `NodeDescription.readNode_entry`, `EdgeDescription.readEdge_entry`: **what reading makes of a layout**;
* `Gate.validate_of_tidy`: a run on readings that are the same when tidied is the same;
* `Gate.validate_of_fits`: forms that can be taken over are judged alike in all layouts;
* `Gate.validate_of_not_fits`: a form that cannot ends the run;
* `Gate.validate_laidOut`: **reports do not depend on the layout**, but whether there is one does;
* `Gate.validate_laidOut_deep`: a node with a deep form, ready made and as a mapping.
-/
import WorkflowGate.Proofs.Backend.Readapted
import WorkflowGate.Proofs.Check.Tidied
import WorkflowGate.Proofs.Gate
import WorkflowGate.Proofs.Intake

namespace WorkflowGate

open Result Run

/-! ## 1. Descriptions -/

/-- What somebody means by a node. -/
structure NodeDescription where
  id : Text
  kind : Text := Text.empty
  config : List (Text × Value) := []
  label : Option Text := none
  parent : Option Text := none
  id_ne_empty : id ≠ Text.empty := by decide
  parent_ne_empty : parent ≠ some Text.empty := by decide

/-- What somebody means by an edge. -/
structure EdgeDescription where
  id : Option Text := none
  source : Text
  target : Text
  sourceHandle : Option Text := none
  targetHandle : Option Text := none
  source_ne_empty : source ≠ Text.empty := by decide
  target_ne_empty : target ≠ Text.empty := by decide

/-- The node that is meant. -/
def NodeDescription.node (d : NodeDescription) : Node := ⟨d.id, d.kind, d.config, d.label, d.parent⟩

/-- Can the form be taken over from a mapping? -/
def NodeDescription.Fits (d : NodeDescription) : Prop :=
  ∀ e ∈ d.config, e.2.height ≤ Room.form

/-- The edge that is meant: it has the name that it brings, else one after its ends and handles. -/
def EdgeDescription.edge (d : EdgeDescription) : Edge where
  id := (Edge.namedHandle d.id).getD
    (synthesizedId d.source d.target d.sourceHandle d.targetHandle)
  source := d.source
  target := d.target
  sourceHandle := d.sourceHandle
  targetHandle := d.targetHandle

/-! ## 2. Layouts -/

/-- The ways to spell a node as a mapping. -/
inductive NodeSpelling
  /-- A flat mapping with `kind` and `parent_id`. -/
  | flat
  /-- A flat mapping with `node_type` and `parentId`. -/
  | flatTyped
  /-- A mapping with the payload of the editor in it, and the group beside that. -/
  | editor
  /-- A mapping with the payload of the editor in it, which has the group. -/
  | editorGrouped
deriving DecidableEq

/-- The ways to spell an edge as a mapping. -/
inductive EdgeSpelling
  /-- With `source_handle` and `target_handle`. -/
  | snakeCase
  /-- With `sourceHandle` and `targetHandle`. -/
  | camelCase
deriving DecidableEq

/-- The ways to hand over an element: spelled as a mapping, or ready made. -/
inductive Layout (spelling : Type)
  | mapping (s : spelling)
  | readyMade
deriving DecidableEq

/-- The fields of a node in a spelling; what it has not is null. -/
def NodeDescription.fields (d : NodeDescription) : NodeSpelling → List (String × Value)
  | .flat =>
    [("id", .text d.id), ("kind", .text d.kind), ("config", .mapping d.node.form),
      ("label", .ofText? d.label), ("parent_id", .ofText? d.parent)]
  | .flatTyped =>
    [("id", .text d.id), ("node_type", .text d.kind), ("config", .mapping d.node.form),
      ("label", .ofText? d.label), ("parentId", .ofText? d.parent)]
  | .editor =>
    [("id", .text d.id), ("parentNode", .ofText? d.parent),
      ("data", .ofFields [("nodeType", .text d.kind), ("config", .mapping d.node.form),
        ("label", .ofText? d.label)])]
  | .editorGrouped =>
    [("id", .text d.id),
      ("data", .ofFields [("nodeType", .text d.kind), ("config", .mapping d.node.form),
        ("label", .ofText? d.label), ("parentNode", .ofText? d.parent)])]

/-- The fields of an edge in a spelling; a handle that it has not is null, and an id that it has not is
left out. -/
def EdgeDescription.fields (d : EdgeDescription) (s : EdgeSpelling) : List (String × Value) :=
  let handles : List (String × Value) :=
    match s with
    | .snakeCase =>
      [("source_handle", .ofText? d.sourceHandle), ("target_handle", .ofText? d.targetHandle)]
    | .camelCase =>
      [("sourceHandle", .ofText? d.sourceHandle), ("targetHandle", .ofText? d.targetHandle)]
  [("source", .text d.source), ("target", .text d.target)] ++ handles ++
    (d.id.map fun id => ("id", Value.text id)).toList

/-- The entry of a node in a layout. -/
def NodeDescription.entry (d : NodeDescription) : Layout NodeSpelling → Entry Node
  | .mapping s => .raw (.ofFields (d.fields s))
  | .readyMade => .built d.node

/-- The entry of an edge in a layout. -/
def EdgeDescription.entry (d : EdgeDescription) : Layout EdgeSpelling → Entry Edge
  | .mapping s => .raw (.ofFields (d.fields s))
  | .readyMade => .built d.edge

/-! ## 3. What reading makes of a node -/

/-- A label in the payload of the editor gives way to that beside it when it is empty. -/
theorem labelOf_orElse_null (label : Option Text) :
    labelOf ((Value.ofText? label).orElse .null) = label.filter fun t => !t.isEmpty := by
  cases label with
  | none => rfl
  | some t =>
    cases hempty : t.isEmpty <;>
      simp [Value.ofText?, Value.orElse, Value.truthy, labelOf, Value.text?, Option.filter_some,
        hempty]

namespace NodeDescription

variable {d : NodeDescription}

theorem takeConfig_of_fits (h : d.Fits) : takeConfig d.node.form = .ok d.node.form := by
  refine if_pos (List.all_eq_true.mpr fun e he => ?_)
  obtain ⟨field, hfield, rfl⟩ := List.mem_map.mp he
  exact decide_eq_true (h field hfield)

theorem takeConfig_of_not_fits (h : ¬ d.Fits) : takeConfig d.node.form = .error .tooDeepToTake := by
  refine if_neg fun hall => h fun field hfield => ?_
  exact of_decide_eq_true (List.all_eq_true.mp hall _ (List.mem_map_of_mem hfield))

/-- The parts of a mapping under any of their names are those of the description, but for the label. -/
structure SaidBy (d : NodeDescription) (es : Entries) : Prop where
  id : idOf (es.get "id") = .ok (some d.id)
  kind : (firstTruthy [(dataOf es).get "nodeType", es.get "kind", es.get "node_type"]).text?.getD
    Text.empty = d.kind
  form : configOf es (dataOf es) = d.node.form
  parent : idOf (firstTruthy [es.get "parent_id", es.get "parentId", es.get "parentNode",
    (dataOf es).get "parentNode"]) = .ok d.parent

/-- **Such a mapping is read as the node that is meant**, with the label that it has. -/
theorem SaidBy.nodeOfEntries {es : Entries} (hs : d.SaidBy es) (h : d.Fits) :
    nodeOfEntries es = .ok (.node { d.node with
      label := labelOf (firstTruthy [(dataOf es).get "label", es.get "label"]) }) := by
  have hform : readTextMapping (.mapping d.node.form) = .good d.config :=
    (readTextMapping_eq_good_iff _ _).mpr rfl
  simp only [WorkflowGate.nodeOfEntries, hs.id, hs.form, takeConfig_of_fits h, hs.parent, bind,
    Except.bind, hform, hs.kind, pure, Except.pure]
  rfl

/-- Its form is not taken over when it is too deep. -/
theorem SaidBy.nodeOfEntries_of_not_fits {es : Entries} (hs : d.SaidBy es) (h : ¬ d.Fits) :
    WorkflowGate.nodeOfEntries es = .error .tooDeepToTake := by
  simp only [WorkflowGate.nodeOfEntries, hs.id, hs.form, takeConfig_of_not_fits h, bind, Except.bind]

variable (d)

/-- **Every spelling says what is meant.** -/
theorem saidBy_fields (s : NodeSpelling) :
    d.SaidBy ((d.fields s).map fun f => (.text f.1, f.2)) := by
  have hparent : idOf (Value.ofText? d.parent) = .ok d.parent := by
    cases hp : d.parent with
    | none => rfl
    | some p => exact idOf_text fun hempty => d.parent_ne_empty (hempty ▸ hp)
  have hid : idOf (.text d.id) = .ok (some d.id) := idOf_text d.id_ne_empty
  have hkind : (Value.text d.kind).text? = some d.kind := rfl
  cases s <;> constructor <;>
    simp [fields, dataOf, configOf, Entries.get, Entries.get?, OrderedMap.lookup, Value.ofFields,
      Value.entries?, firstTruthy, Value.null_orElse, Value.text?_orElse_null,
      Value.idOf_orElse_null, hid, hkind, hparent]

/-- The node that is read from a layout: the payload of the editor loses a label that is empty. -/
def taken (d : NodeDescription) : Layout NodeSpelling → Node
  | .mapping .editor => d.node.tidy
  | .mapping .editorGrouped => d.node.tidy
  | _ => d.node

@[simp] theorem tidy_taken (layout : Layout NodeSpelling) : (d.taken layout).tidy = d.node.tidy := by
  unfold taken
  split <;> simp

/-- **From every layout the node is read that is meant**, but for a label that is empty. -/
theorem readNode_entry {layout : Layout NodeSpelling} (h : layout = .readyMade ∨ d.Fits) :
    (d.entry layout).readNode = .ok (.node (d.taken layout)) := by
  rcases h with rfl | h
  · rfl
  cases layout with
  | readyMade => rfl
  | mapping s =>
    refine ((d.saidBy_fields s).nodeOfEntries h).trans (congrArg (Except.ok ∘ NodeReading.node) ?_)
    cases s <;>
      simp [fields, dataOf, Entries.get, Entries.get?, OrderedMap.lookup, Value.ofFields,
        Value.entries?, firstTruthy, Value.null_orElse, Value.labelOf_ofText?, labelOf_orElse_null] <;>
      rfl

/-- A form that is too deep is taken over from no mapping. -/
theorem readNode_entry_of_not_fits {layout : Layout NodeSpelling} (hlayout : layout ≠ .readyMade)
    (h : ¬ d.Fits) : (d.entry layout).readNode = .error .tooDeepToTake := by
  cases layout with
  | readyMade => exact absurd rfl hlayout
  | mapping s => exact (d.saidBy_fields s).nodeOfEntries_of_not_fits h

end NodeDescription

/-! ## 4. What reading makes of an edge -/

/-- A text or null spells the text, unless it is empty. -/
theorem idOf_ofText? (t : Option Text) : idOf (Value.ofText? t) = .ok (Edge.namedHandle t) := by
  cases t with
  | none => rfl
  | some t =>
    cases hempty : t.isEmpty <;>
      simp [Value.ofText?, idOf, Edge.namedHandle, Option.filter_some, hempty]

/-- Handles that are empty have no part in the name of an edge. -/
theorem synthesizedId_namedHandle (source target : Text) (sourceHandle targetHandle : Option Text) :
    synthesizedId source target (Edge.namedHandle sourceHandle) (Edge.namedHandle targetHandle) =
      synthesizedId source target sourceHandle targetHandle := by
  simp [synthesizedId, endName]

namespace EdgeDescription

variable (d : EdgeDescription)

/-- The parts of a mapping under any of their names are those of the description. -/
structure SaidBy (d : EdgeDescription) (es : Entries) : Prop where
  id : idOf (es.get "id") = .ok (Edge.namedHandle d.id)
  source : idOf (es.get "source") = .ok (some d.source)
  target : idOf (es.get "target") = .ok (some d.target)
  sourceHandle : handleOf es "source_handle" "sourceHandle" = .ok (Edge.namedHandle d.sourceHandle)
  targetHandle : handleOf es "target_handle" "targetHandle" = .ok (Edge.namedHandle d.targetHandle)

/-- **Such a mapping is read as the edge that is meant**, but for handles that are empty. -/
theorem SaidBy.edgeOfEntries {d : EdgeDescription} {es : Entries} (h : d.SaidBy es) :
    edgeOfEntries es = .ok (some d.edge.tidy) := by
  simp only [WorkflowGate.edgeOfEntries, h.id, h.source, h.target, h.sourceHandle, h.targetHandle,
    bind, Except.bind, pure, Except.pure, synthesizedId_namedHandle]
  rfl

/-- **Every spelling says what is meant**, whether it brings an id or not. -/
theorem saidBy_fields (s : EdgeSpelling) :
    d.SaidBy ((d.fields s).map fun f => (.text f.1, f.2)) := by
  obtain ⟨id, source, target, sourceHandle, targetHandle, hsource, htarget⟩ := d
  have hid (id : Text) : idOf (.text id) = .ok (Edge.namedHandle (some id)) := idOf_ofText? (some id)
  have hnone : idOf .null = .ok (Edge.namedHandle none) := idOf_ofText? none
  cases s <;> cases id <;> constructor <;>
    simp [fields, handleOf, Entries.get, Entries.get?, OrderedMap.lookup, idOf_text hsource,
      idOf_text htarget, idOf_ofText?, hid, hnone]

/-- The edge that is read from a layout. -/
def taken (d : EdgeDescription) : Layout EdgeSpelling → Edge
  | .mapping _ => d.edge.tidy
  | .readyMade => d.edge

@[simp] theorem tidy_taken (layout : Layout EdgeSpelling) : (d.taken layout).tidy = d.edge.tidy := by
  cases layout <;> simp [taken]

/-- **From every layout the edge is read that is meant**, but for handles that are empty. -/
theorem readEdge_entry (layout : Layout EdgeSpelling) :
    (d.entry layout).readEdge = .ok (some (d.taken layout)) := by
  cases layout with
  | readyMade => rfl
  | mapping s => exact (d.saidBy_fields s).edgeOfEntries

end EdgeDescription

/-! ## 5. Runs on readings that are the same when tidied -/

section Readings

variable {nodes nodes' : List (Entry Node)} {edges edges' : List (Entry Edge)}
  {ns ns' : List NodeReading} {es es' : List (Option Edge)}

/-- Within a run, readings become their graph, and the log says what was met. -/
theorem Snapshot.execute_adapt_of_readings (hns : nodes.mapM Entry.readNode = .ok ns)
    (hes : edges.mapM Entry.readEdge = .ok es) (st : RunState) :
    (Snapshot.adapt (.entries nodes) (.entries edges)).execute st =
      (.ok (ofReadings ns es), { st with
        log := st.log ++ rejectionRecords ns ++ [(ofReadings ns es).adaptedRecord] }) := by
  have hnodes : (Batch.entries nodes).toEntries.bind (·.mapM Entry.readNode) = .ok ns := hns
  have hedges : (Batch.entries edges).toEntries.bind (·.mapM Entry.readEdge) = .ok es := hes
  rw [adapt, hnodes, hedges]
  rfl

namespace Gate

variable {g : Gate} {o : Options}

/-- What a run without a back end does with readings goes by their graph and by what is logged. -/
theorem execute_stage_of_readings (hunwanted : o.withBackend.truthy = false)
    (hns : nodes.mapM Entry.readNode = .ok ns) (hes : edges.mapM Entry.readEdge = .ok es)
    {s : Snapshot} (hs : Snapshot.ofReadings ns es = s) (mayWait : Bool) (st : RunState) :
    (g.stage o mayWait (.entries nodes) (.entries edges)).execute st =
      (if s.isEmpty then pure (.settled (.ofFindings (s.findings ++ [emptyFinding])))
        else do return .pending (← g.localFindings o s) .unasked : Run Stage).execute { st with
          log := st.log ++ Snapshot.rejectionRecords ns ++ [s.adaptedRecord] } := by
  have hlists : (inputFindings (.entries nodes) (.entries edges)).isEmpty = true := rfl
  have hadapt := Snapshot.execute_adapt_of_readings hns hes st
  rw [hs] at hadapt
  simp only [stage, intake, hlists, if_true, execute_bind, hadapt]
  cases s.isEmpty with
  | true => rfl
  | false =>
    simp only [Bool.false_eq_true, if_false, execute_pure, execute_bind,
      g.question_of_unwanted hunwanted]

/-- **A run without a back end does the same on readings that are the same when tidied**, the log
included. -/
theorem validate_of_tidy (hlabels : g.refinements.IgnoresEmptyLabels)
    (hunwanted : o.withBackend.truthy = false)
    (hns : nodes.mapM Entry.readNode = .ok ns) (hes : edges.mapM Entry.readEdge = .ok es)
    (hns' : nodes'.mapM Entry.readNode = .ok ns') (hes' : edges'.mapM Entry.readEdge = .ok es')
    (hnodes : ns.map NodeReading.tidy = ns'.map NodeReading.tidy)
    (hedges : es.map (Option.map Edge.tidy) = es'.map (Option.map Edge.tidy))
    (mayWait : Bool) (t : Transport) :
    g.validate o mayWait (.entries nodes) (.entries edges) t =
      g.validate o mayWait (.entries nodes') (.entries edges') t := by
  have htidy : (Snapshot.ofReadings ns es).tidy = (Snapshot.ofReadings ns' es').tidy := by
    rw [← Snapshot.ofReadings_tidy, hnodes, hedges, Snapshot.ofReadings_tidy]
  have hrecords : Snapshot.rejectionRecords ns = Snapshot.rejectionRecords ns' := by
    rw [← Snapshot.rejectionRecords_tidy, hnodes, Snapshot.rejectionRecords_tidy]
  have hstage := execute_stage_of_readings (g := g) hunwanted hns hes rfl mayWait
  have hstage' := execute_stage_of_readings (g := g) hunwanted hns' hes' rfl mayWait
  generalize Snapshot.ofReadings ns es = s at htidy hstage
  generalize Snapshot.ofReadings ns' es' = s' at htidy hstage'
  rw [validate, validate, start, start, hstage, hstage', hrecords,
    Snapshot.eq_of_tidy_eq Snapshot.isEmpty_tidy htidy,
    Snapshot.eq_of_tidy_eq Snapshot.findings_tidy htidy,
    Snapshot.eq_of_tidy_eq Snapshot.adaptedRecord_tidy htidy,
    Snapshot.eq_of_tidy_eq (localFindings_tidy hlabels o) htidy]

end Gate

end Readings

/-! ## 6. Canvases -/

/-- What somebody means by a canvas. -/
structure CanvasDescription where
  nodes : List NodeDescription
  edges : List EdgeDescription := []

/-- A layout for every place among the nodes and among the edges. -/
structure Layouts where
  nodes : Nat → Layout NodeSpelling
  edges : Nat → Layout EdgeSpelling

namespace CanvasDescription

variable (c : CanvasDescription) (l : Layouts)

/-- The nodes, each in the layout for its place. -/
def nodeEntries : List (Entry Node) := c.nodes.zipIdx.map fun d => d.1.entry (l.nodes d.2)

/-- The edges, each in the layout for its place. -/
def edgeEntries : List (Entry Edge) := c.edges.zipIdx.map fun d => d.1.entry (l.edges d.2)

/-- Every form that is not ready made can be taken over. -/
def Fits : Prop := ∀ d ∈ c.nodes.zipIdx, l.nodes d.2 = .readyMade ∨ d.1.Fits

/-- The readings of the nodes. -/
def nodeReadings : List NodeReading := c.nodes.zipIdx.map fun d => .node (d.1.taken (l.nodes d.2))

/-- The readings of the edges. -/
def edgeReadings : List (Option Edge) := c.edges.zipIdx.map fun d => some (d.1.taken (l.edges d.2))

variable {c l}

theorem mapM_nodeEntries (h : c.Fits l) :
    (c.nodeEntries l).mapM Entry.readNode = .ok (c.nodeReadings l) := by
  rw [nodeEntries, List.mapM_map]
  exact Result.mapM_eq_ok fun d hd => d.1.readNode_entry (h d hd)

/-- A form that is not ready made and too deep ends the reading. -/
theorem mapM_nodeEntries_of_not_fits (h : ¬ c.Fits l) :
    (c.nodeEntries l).mapM Entry.readNode = .error .tooDeepToTake := by
  rw [nodeEntries, List.mapM_map]
  refine Result.mapM_eq_error (fun d _ => ?_) fun hall => h fun d hd => ?_
  · by_cases hd : l.nodes d.2 = .readyMade ∨ d.1.Fits
    · exact .inl ⟨_, d.1.readNode_entry hd⟩
    · exact .inr (d.1.readNode_entry_of_not_fits (fun hmade => hd (.inl hmade)) fun hfits =>
        hd (.inr hfits))
  · by_contra hno
    obtain ⟨r, hr⟩ := hall d hd
    rw [Function.comp_apply, d.1.readNode_entry_of_not_fits (fun hmade => hno (.inl hmade)) fun hfits =>
      hno (.inr hfits)] at hr
    cases hr

variable (c l)

theorem mapM_edgeEntries : (c.edgeEntries l).mapM Entry.readEdge = .ok (c.edgeReadings l) := by
  rw [edgeEntries, List.mapM_map]
  exact Result.mapM_eq_ok fun d _ => d.1.readEdge_entry (l.edges d.2)

/-- **Tidied, the readings of the nodes do not depend on the layouts.** -/
theorem tidy_nodeReadings :
    (c.nodeReadings l).map NodeReading.tidy = c.nodes.map fun d => .node d.node.tidy := by
  have htidy : (NodeReading.tidy ∘ fun d : NodeDescription × Nat => .node (d.1.taken (l.nodes d.2))) =
      (fun d => .node d.node.tidy) ∘ Prod.fst :=
    funext fun d => congrArg NodeReading.node (d.1.tidy_taken (l.nodes d.2))
  rw [nodeReadings, List.map_map, htidy, ← List.map_map, List.zipIdx_map_fst]

/-- Neither do those of the edges. -/
theorem tidy_edgeReadings :
    (c.edgeReadings l).map (Option.map Edge.tidy) = c.edges.map fun d => some d.edge.tidy := by
  have htidy : (Option.map Edge.tidy ∘ fun d : EdgeDescription × Nat =>
      some (d.1.taken (l.edges d.2))) = (fun d => some d.edge.tidy) ∘ Prod.fst :=
    funext fun d => congrArg some (d.1.tidy_taken (l.edges d.2))
  rw [edgeReadings, List.map_map, htidy, ← List.map_map, List.zipIdx_map_fst]

end CanvasDescription

namespace Gate

variable {g : Gate} {o : Options} {c : CanvasDescription} {l l' : Layouts}

/-- **Forms that can be taken over are judged alike in all layouts.** -/
theorem validate_of_fits (hlabels : g.refinements.IgnoresEmptyLabels)
    (hunwanted : o.withBackend.truthy = false) (h : c.Fits l) (h' : c.Fits l') (mayWait : Bool)
    (t : Transport) :
    g.validate o mayWait (.entries (c.nodeEntries l)) (.entries (c.edgeEntries l)) t =
      g.validate o mayWait (.entries (c.nodeEntries l')) (.entries (c.edgeEntries l')) t :=
  validate_of_tidy hlabels hunwanted (c.mapM_nodeEntries h) (c.mapM_edgeEntries l)
    (c.mapM_nodeEntries h') (c.mapM_edgeEntries l')
    ((c.tidy_nodeReadings l).trans (c.tidy_nodeReadings l').symm)
    ((c.tidy_edgeReadings l).trans (c.tidy_edgeReadings l').symm) mayWait t

/-- **A form that cannot ends the run**, whatever else there is on the canvas. -/
theorem validate_of_not_fits (g : Gate) (o : Options) (h : ¬ c.Fits l) (mayWait : Bool)
    (t : Transport) :
    (g.validate o mayWait (.entries (c.nodeEntries l)) (.entries (c.edgeEntries l)) t).result =
      .error .tooDeepToTake := by
  have hread : Snapshot.ofBatches (.entries (c.nodeEntries l)) (.entries (c.edgeEntries l)) =
      .error .tooDeepToTake := by
    simp only [Snapshot.ofBatches, Batch.toEntries, CanvasDescription.mapM_nodeEntries_of_not_fits h,
      bind, Except.bind]
  obtain ⟨log, hstage⟩ := execute_stage_of_unread g o mayWait rfl hread (Run.begin g.schemas o.lookup)
  rw [validate_of_execute hstage]
  rfl

/-- **The report does not depend on the layout.**  Whatever layouts are chosen for the nodes and the
edges of a canvas, one by one, two runs without a back end that report report the same.  They do the
same altogether, the log included, where all forms can be taken over in both; a form that cannot ends
the run. -/
theorem validate_laidOut (hlabels : g.refinements.IgnoresEmptyLabels)
    (hunwanted : o.withBackend.truthy = false) (mayWait : Bool) (t : Transport)
    (c : CanvasDescription) (l l' : Layouts) :
    (∀ report report',
      (g.validate o mayWait (.entries (c.nodeEntries l)) (.entries (c.edgeEntries l)) t).result =
        .ok report →
      (g.validate o mayWait (.entries (c.nodeEntries l')) (.entries (c.edgeEntries l')) t).result =
        .ok report' → report = report') ∧
    (c.Fits l → c.Fits l' →
      g.validate o mayWait (.entries (c.nodeEntries l)) (.entries (c.edgeEntries l)) t =
        g.validate o mayWait (.entries (c.nodeEntries l')) (.entries (c.edgeEntries l')) t) ∧
    (¬ c.Fits l →
      (g.validate o mayWait (.entries (c.nodeEntries l)) (.entries (c.edgeEntries l)) t).result =
        .error .tooDeepToTake) := by
  refine ⟨fun report report' hreport hreport' => ?_,
    fun h h' => validate_of_fits hlabels hunwanted h h' mayWait t,
    fun h => validate_of_not_fits g o h mayWait t⟩
  by_cases h : c.Fits l
  · by_cases h' : c.Fits l'
    · rw [validate_of_fits hlabels hunwanted h h', hreport'] at hreport
      exact (Except.ok.inj hreport).symm
    · rw [validate_of_not_fits g o h'] at hreport'
      cases hreport'
  · rw [validate_of_not_fits g o h] at hreport
    cases hreport

end Gate

/-- A condition behind a trigger: there are labels, a handle and a kind that are empty, an edge that
brings no name, and a node within a group. -/
def conditionDescription : CanvasDescription where
  nodes :=
    [{ id := "start", kind := "manual_trigger", label := some "" },
      { id := "check", kind := "if", label := some "Check" },
      { id := "end", label := some "", parent := some "check" }]
  edges :=
    [{ source := "start", target := "check", sourceHandle := some "" },
      { id := some "yes", source := "check", target := "end", sourceHandle := some "true" }]

namespace Layouts

/-- Flat mappings throughout. -/
def flat : Layouts where
  nodes _ := .mapping .flat
  edges _ := .mapping .snakeCase

/-- Ready-made elements throughout. -/
def readyMade : Layouts where
  nodes _ := .readyMade
  edges _ := .readyMade

/-- Another layout at each place. -/
def mixed : Layouts where
  nodes i := if i = 0 then .mapping .editor else if i = 1 then .readyMade else .mapping .editorGrouped
  edges i := if i = 0 then .mapping .camelCase else .readyMade

end Layouts

namespace Gate

/-- The canvas gets the same report from flat mappings as from a layout that is another one at each
place. -/
theorem validate_laidOut_condition : ∃ report,
    (({} : Gate).validate {} true (.entries (conditionDescription.nodeEntries .flat))
      (.entries (conditionDescription.edgeEntries .flat)) { deliver := fun _ => .silence }).result =
        .ok report ∧
    (({} : Gate).validate {} true (.entries (conditionDescription.nodeEntries .mixed))
      (.entries (conditionDescription.edgeEntries .mixed)) { deliver := fun _ => .silence }).result =
        .ok report := by
  generalize ({ deliver := fun _ => .silence } : Transport) = t
  have hnodes : ((conditionDescription.nodes.map fun d => Value.ofFields (d.fields .flat)).map
      Entry.raw).mapM Entry.readNode = .ok ((conditionDescription.nodes.map (·.node)).map .node) := rfl
  have hedges : ((conditionDescription.edges.map fun d => Value.ofFields (d.fields .snakeCase)).map
      Entry.raw).mapM Entry.readEdge = .ok ((conditionDescription.edges.map (·.edge.tidy)).map some) :=
    rfl
  obtain ⟨report, hreport⟩ := exists_report_of_blank {} {} rfl rfl Gate.usable_default rfl true
    hnodes hedges (by decide) (by decide +kernel) t
  have hblank : ∀ d ∈ conditionDescription.nodes, d.config = [] := by decide
  have hfits (l : Layouts) : conditionDescription.Fits l := fun d hd => .inr fun e he => by
    rw [hblank d.1 (List.fst_mem_of_mem_zipIdx hd)] at he
    cases he
  obtain ⟨-, hsame, -⟩ := validate_laidOut (g := {}) (o := {}) ignoresEmptyLabels_builtin rfl true t
    conditionDescription .flat .mixed
  exact ⟨report, hreport, (congrArg RunResult.result (hsame (hfits _) (hfits _))).symm.trans hreport⟩

/-- A node with one value in its form, one step deeper than a form may be. -/
def deepDescription : CanvasDescription where
  nodes := [{ id := "deep", config := [("v", .nested Room.form)] }]
  edges := []

/-- **Whether there is a report depends on the layout**: there is one of the node that is ready made, and
none of the mapping. -/
theorem validate_laidOut_deep :
    (({} : Gate).validate {} true (.entries (deepDescription.nodeEntries .flat))
        (.entries (deepDescription.edgeEntries .flat)) { deliver := fun _ => .silence }).result =
          .error .tooDeepToTake ∧
      ∃ report, (({} : Gate).validate {} true (.entries (deepDescription.nodeEntries .readyMade))
        (.entries (deepDescription.edgeEntries .readyMade)) { deliver := fun _ => .silence }).result =
          .ok report := by
  generalize ({ deliver := fun _ => .silence } : Transport) = t
  constructor
  · refine validate_of_not_fits {} {} (fun hfits => ?_) true t
    rcases hfits _ List.mem_cons_self with hmade | hfits
    · cases hmade
    · have hheight := hfits _ List.mem_cons_self
      rw [Value.height_nested] at hheight
      exact Nat.not_succ_le_self _ hheight
  · exact exists_report_of_snapshot {} rfl rfl Gate.usable_default rfl true rfl
      (s := Snapshot.ofReadings [.node (Snapshot.nestedNode Room.form)] []) rfl
      (Snapshot.judgeable_nestedNode _ _) t

end Gate

end WorkflowGate
