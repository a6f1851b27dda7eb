/-
# Which registry a run goes by

A registry that somebody has registered a kind in is the one that a run goes by: the report is that of
the checks over this registry and no other, and of a kind that was never registered nothing is said that
would need a schema, nor does it have any category but the one that its name tells.  A registry that
nobody has registered anything in is passed over, and the built-in one takes its place; a gate that is
handed a registry of refinements, however empty, uses that one.

* `Registry.mem_kinds_built_iff`: a registry holds the kinds of the calls that have built it;
* `Gate.determined_localFindings`: what the checks come to does not depend on what is on the log;
* `Gate.result_validate_eq_reportOver`: so a run comes to the checks over the schemas of its gate;
* `Gate.goesBy_of_reportOver`: **what is said, and not said, over a registry**;
* `Gate.reports_over_registry`: the two cases, and `Gate.empty_registry_passed_over` for the second.
-/
import WorkflowGate.Proofs.Located
import WorkflowGate.Proofs.SharedResolver

namespace WorkflowGate

open Result Run

/-! ## 1. Registries that calls have built -/

/-- A call that registers a schema. -/
structure Registration where
  schema : KindSchema
  replace : Bool := false

namespace Registry

/-- The registry after a call; one that is refused leaves it as it was. -/
def after (r : Registry) (c : Registration) : Registry :=
  match r.register c.schema c.replace with
  | .ok r' => r'
  | .error _ => r

/-- The registry that calls have built, one after the other. -/
def built (calls : List Registration) : Registry := calls.foldl after empty

/-- After a call the kinds are those before it and that of the call, refused or not. -/
theorem mem_kinds_after_iff (r : Registry) (c : Registration) (kind : Text) :
    kind ∈ (r.after c).kinds ↔ kind ∈ r.kinds ∨ c.schema.kind = kind := by
  unfold after
  cases hcall : r.register c.schema c.replace with
  | error f =>
    obtain ⟨hthere, -, -⟩ := (r.register_eq_error_iff c.schema c.replace f).mp hcall
    exact ⟨.inl, fun h => h.elim id fun heq => heq ▸ hthere⟩
  | ok r' =>
    have hr' : r' = ⟨r.schemas.insert c.schema.kind c.schema⟩ := by
      unfold register at hcall
      split at hcall
      · cases hcall
      · exact (Except.ok.inj hcall).symm
    rw [hr', kinds, kinds, ← OrderedMap.contains_iff, OrderedMap.contains_insert,
      OrderedMap.contains_iff, or_comm]

/-- **A registry holds the kinds that it was asked to register.** -/
theorem mem_kinds_built_iff (calls : List Registration) (kind : Text) :
    kind ∈ (built calls).kinds ↔ ∃ c ∈ calls, c.schema.kind = kind := by
  -- the loop goes from the front, so the last call is the one that finds all others made
  induction calls using List.reverseRecOn with
  | nil => exact ⟨fun h => absurd h List.not_mem_nil, fun ⟨c, hc, _⟩ => absurd hc List.not_mem_nil⟩
  | append_singleton calls c ih =>
    have hlast : built (calls ++ [c]) = (built calls).after c := by
      rw [built, List.foldl_append]
      rfl
    rw [hlast, mem_kinds_after_iff, ih]
    simp [or_and_right, exists_or]

/-- It is empty only if nothing was ever asked of it. -/
theorem size_built_eq_zero_iff (calls : List Registration) : (built calls).size = 0 ↔ calls = [] := by
  have hsize : (built calls).size = (built calls).kinds.length := by
    rw [size, OrderedMap.size, kinds, OrderedMap.keys, List.length_map]
  rw [hsize, List.length_eq_zero_iff, List.eq_nil_iff_forall_not_mem, List.eq_nil_iff_forall_not_mem]
  constructor
  · exact fun h c hc => h c.schema.kind ((mem_kinds_built_iff calls _).mpr ⟨c, hc, rfl⟩)
  · intro h kind hkind
    obtain ⟨c, hc, -⟩ := (mem_kinds_built_iff calls kind).mp hkind
    exact h c hc

/-- A kind that is not registered has no schema. -/
theorem find?_eq_none {r : Registry} {kind : Text} (h : kind ∉ r.kinds) : r.find? kind = none := by
  rw [← Option.not_isSome_iff_eq_none]
  exact fun hsome => h ((OrderedMap.contains_iff r.schemas kind).mp hsome)

/-- Its category is the one that its name tells. -/
theorem categoryOf_of_not_mem {r : Registry} {kind : Text} (h : kind ∉ r.kinds) :
    r.categoryOf kind = if kind.endsWith "_trigger" then .trigger else .generic := by
  rw [categoryOf, find?_eq_none h]

end Registry

/-! ## 2. Checks over a registry -/

namespace Resolver.Extends

variable {registry : Registry} {final : Resolver} {kind : Text}

/-- What a run over a registry alone has resolved, it has taken from there. -/
theorem answer_eq_of_begin (h : (Run.begin registry none).resolver.Extends final)
    (hsettled : final.Settled kind) (hnamed : kind.isEmpty = false) :
    final.answer kind = registry.find? kind := by
  obtain rfl | ⟨schema, hkept⟩ := hsettled
  · cases hnamed
  · obtain hold | ⟨asked, loaded, hload, rfl⟩ := h.loaded kind schema hkept
    · cases hold
    · cases hload
      rw [answer, hnamed, if_neg Bool.false_ne_true, hkept]
      rfl

/-- There is nothing to take for a kind that is not registered. -/
theorem answer_of_begin (h : (Run.begin registry none).resolver.Extends final)
    (hkind : kind ∉ registry.kinds) : final.answer kind = none := by
  unfold answer
  split
  · rfl
  · cases hkept : final.cache.find? kind with
    | none => rfl
    | some schema =>
      obtain hold | ⟨asked, loaded, hload, rfl⟩ := h.loaded kind schema hkept
      · cases hold
      · cases hload
        exact Registry.find?_eq_none hkind

theorem category_of_begin (h : (Run.begin registry none).resolver.Extends final)
    (hkind : kind ∉ registry.kinds) :
    final.category kind = if kind.endsWith "_trigger" then .trigger else .generic := by
  simp only [category, categoryWith, h.answer_of_begin hkind, h.registry_eq]
  exact Registry.categoryOf_of_not_mem hkind

end Resolver.Extends

namespace Gate

variable {registry : Registry} {answers : Text → Except Fault Resolver.Loaded}

/-- **The checks have one result, whatever has been resolved or logged before.** -/
theorem determined_localFindings (g : Gate) (o : Options) (s : Snapshot) :
    Determined registry answers (g.localFindings o s) := by
  have hrecord (records : List LogRecord) : Determined registry answers (record records) :=
    (computes_record records).determined
  refine ((s.determined_nodesOf .trigger).map s.triggerAdvice).bind fun triggers => ?_
  refine Determined.bind ?_ fun cycles => ?_
  · exact (determined_lift _).bind fun report => (hrecord _).bind fun _ => determined_pure _
  refine Determined.bind ?_ fun connections => ?_
  · exact s.determined_analyzeReachability.bind fun reachability =>
      s.determined_findOrphans.bind fun orphans => determined_pure _
  refine (s.computes_fieldFindings g.refinements).determined.bind fun fields => ?_
  refine Determined.bind ?_ fun credentials => ?_
  · unfold credentialFindings
    split
    · exact s.determined_credentialFindings
    · exact determined_pure []
  refine (determined_lift _).bind fun branches => (determined_lift _).bind fun timeouts => ?_
  refine (s.determined_complexityFindings g.settings o.maxNestingDepth).bind fun complexity => ?_
  exact s.determined_handleFindings.bind fun handles => determined_pure _

/-- **The report of the checks over a registry alone**, of whatever gate they are. -/
def reportOver (g : Gate) (o : Options) (registry : Registry) (nodes : Batch Node)
    (edges : Batch Edge) : Except Fault Report := do
  let s ← Snapshot.ofBatches nodes edges
  if s.isEmpty then return .ofFindings (s.findings ++ [emptyFinding])
  else return .ofFindings (← ((g.localFindings o s).execute (Run.begin registry none)).1)

/-- What the checks over a registry alone leave resolved. -/
def resolvedOver (g : Gate) (o : Options) (registry : Registry) (s : Snapshot) : Resolver :=
  ((g.localFindings o s).execute (Run.begin registry none)).2.resolver

variable {g : Gate} {o : Options} {nodes : Batch Node} {edges : Batch Edge}

/-- **A run without lookup and back end comes to the checks over the schemas of its gate**, faults
included. -/
theorem result_validate_eq_reportOver (hlists : (nodes.isList && edges.isList) = true)
    (hlookup : o.lookup = none) (hunwanted : o.withBackend.truthy = false) (mayWait : Bool)
    (t : Transport) :
    (g.validate o mayWait nodes edges t).result = g.reportOver o g.schemas nodes edges := by
  unfold reportOver
  cases hs : Snapshot.ofBatches nodes edges with
  | error f =>
    obtain ⟨log, hstage⟩ := execute_stage_of_unread g o mayWait hlists hs _
    rw [validate_of_execute hstage]
    rfl
  | ok s =>
    cases hnodes : s.isEmpty with
    | true =>
      obtain ⟨log, hstage⟩ := execute_stage_of_empty g o mayWait hlists hs hnodes _
      rw [validate_of_execute hstage]
      simp only [bind, Except.bind, hnodes, if_true]
      rfl
    | false =>
      obtain ⟨log, hvalidate⟩ := exists_validate_of_canvas hlists hs hnodes g o.lookup t
      obtain ⟨-, hvalidate⟩ := hvalidate o mayWait rfl
      -- the two runs differ in what reading the canvas has logged
      have hbegin : Resolver.Steady g.schemas g.schemas.answerOf (Run.begin g.schemas none).resolver :=
        Resolver.steady_begin g.schemas
      have hlogged : Resolver.Steady g.schemas g.schemas.answerOf
          ({ Run.begin g.schemas none with log := log } : RunState).resolver := hbegin
      obtain ⟨hsame, -⟩ := (g.determined_localFindings o s).execute_eq hlogged hbegin
      rw [hvalidate, g.question_of_unwanted hunwanted, hlookup]
      simp only [bind, Except.bind, hnodes, Bool.false_eq_true, if_false, ← hsame]
      rcases (g.localFindings o s).execute { Run.begin g.schemas none with log := log } with
        ⟨f | own, st⟩
      · rfl
      · rfl

/-! ## 3. What needs a schema -/

end Gate

/-- The codes of findings that need a schema: required values, shapes, credentials and handles. -/
def Code.schemaBased : List Code :=
  [.missingRequiredField, .invalidJson, .invalidUrl, .invalidNumber, .missingCredential,
    .invalidSourceHandle, .invalidTargetHandle]

/-- Three checks report under them. -/
theorem Code.check?_of_mem_schemaBased {code : Code} (h : code ∈ schemaBased) :
    code.check? = some .fields ∨ code.check? = some .credentials ∨ code.check? = some .handles := by
  revert code
  decide

namespace Node

variable {n : Node} {refinements : RefinementRegistry} {schema : Option KindSchema} {rejected : Bool}
  {found : List Finding} {f : Finding}

/-- **A finding on fields that needs a schema is made by the schema of its node**, or a refinement says
it. -/
theorem exists_of_mem_findingsBy (h : n.findingsBy refinements schema rejected = .ok found)
    (hf : f ∈ found) (hcode : f.code ∈ Code.schemaBased) :
    (schema.isSome = true ∧ f.nodeId = some n.id) ∨
      ∃ r ∈ refinements.forKind n.kind, f ∈ r.said n schema := by
  rcases mem_findingsBy h hf with rfl | ⟨hsome, ⟨spec, hf⟩ | ⟨spec, said, hsaid, hf⟩⟩ | ⟨r, hr, hf⟩
  · exact absurd hcode (by decide : Code.invalidNodeSchema ∉ Code.schemaBased)
  · exact .inl ⟨hsome, (mem_missingField hf).2.1⟩
  · exact .inl ⟨hsome, (mem_shapeFinding hsaid hf).2.1⟩
  · exact .inr ⟨r, hr, hf⟩

end Node

namespace Gate

variable {g : Gate} {o : Options} {nodes : Batch Node} {edges : Batch Edge}

/-- A finding that needs a schema stands at a node whose kind has one, or a refinement says it. -/
theorem Finds.exists_of_schemaBased {s : Snapshot} {final : Resolver} {found : Check → List Finding}
    (h : g.Finds o s final found) (hs : Snapshot.ofBatches nodes edges = .ok s) {check : Check}
    {f : Finding} (hf : f ∈ found check) (hcode : f.code ∈ Code.schemaBased) :
    (∃ n ∈ s.nodeList, f.nodeId = some n.id ∧ (final.answer n.kind).isSome = true) ∨
      ∃ n ∈ s.nodeList, ∃ r ∈ g.refinements.forKind n.kind,
        f ∈ r.said n (final.answer n.kind) := by
  by_cases hcheck : check = .fields
  · subst hcheck
    obtain ⟨n, hn, rejected, part, hpart, hf⟩ := h.fields.only f hf
    obtain ⟨hsome, hid⟩ | ⟨r, hr, hsaid⟩ := Node.exists_of_mem_findingsBy hpart hf hcode
    · exact .inl ⟨n, hn, hid, hsome⟩
    · exact .inr ⟨n, hn, r, hr, hsaid⟩
  · have hreported : f.code.check? = some check := h.reportedBy_of_mem_of_ne hs hcheck hf
    rcases Code.check?_of_mem_schemaBased hcode with hown | hown | hown
    · exact absurd (Option.some.inj (hreported.symm.trans hown)) hcheck
    · obtain rfl := Option.some.inj (hreported.symm.trans hown)
      cases ho : o.checkCredentials.truthy with
      | true =>
        obtain ⟨n, hn, schema, hschema, hf⟩ := (h.credentials ho).only f hf
        refine .inl ⟨n, hn, Node.nodeId_of_mem_missingCredentials hf, ?_⟩
        rw [hschema, Option.isSome_some]
      | false =>
        rw [h.without_credentials ho] at hf
        cases hf
    · obtain rfl := Option.some.inj (hreported.symm.trans hown)
      rw [h.handles] at hf
      obtain ⟨e, -, hf⟩ := List.mem_flatMap.mp hf
      exact .inl (Snapshot.exists_of_mem_handleFindingsBy hf)

/-- **The report goes by the registry.**  It holds what the checks find over the registry, by the schemas
that it has for the nodes; a kind that is not registered has no schema and the category that its name
tells; and at its nodes stands no finding that would need a schema, unless a refinement says so. -/
structure GoesBy (g : Gate) (o : Options) (registry : Registry) (s : Snapshot) (report : Report) :
    Prop where
  found : ∃ found, g.Finds o s (g.resolvedOver o registry s) found ∧
    report = .ofFindings (Check.all.flatMap found)
  schema : ∀ n ∈ s.nodeList, n.kind.isEmpty = false →
    (g.resolvedOver o registry s).answer n.kind = registry.find? n.kind
  absent : ∀ kind, kind ∉ registry.kinds → (g.resolvedOver o registry s).answer kind = none
  category : ∀ kind, kind ∉ registry.kinds → (g.resolvedOver o registry s).category kind =
    if kind.endsWith "_trigger" then .trigger else .generic
  unsaid : ∀ f ∈ report.all, f.code ∈ Code.schemaBased →
    ∀ n ∈ s.nodeList, f.nodeId = some n.id → n.kind ∉ registry.kinds →
      ∃ m ∈ s.nodeList, ∃ r ∈ g.refinements.forKind m.kind,
        f ∈ r.said m ((g.resolvedOver o registry s).answer m.kind)

/-- **A report over a registry goes by it**, where there are nodes to report on. -/
theorem goesBy_of_reportOver {registry : Registry} {report : Report}
    (h : g.reportOver o registry nodes edges = .ok report) :
    ∃ s, Snapshot.ofBatches nodes edges = .ok s ∧
      (s.isEmpty = false → g.GoesBy o registry s report) := by
  obtain ⟨s, hs, h⟩ := bind_eq_ok_iff.mp h
  refine ⟨s, hs, fun hnodes => ?_⟩
  rw [hnodes, if_neg Bool.false_ne_true] at h
  obtain ⟨own, hown, h⟩ := bind_eq_ok_iff.mp h
  obtain rfl := Except.ok.inj h
  have hlocal : (g.localFindings o s).execute (Run.begin registry none) =
      (.ok own, ((g.localFindings o s).execute (Run.begin registry none)).2) := Prod.ext hown rfl
  obtain ⟨hleft, htold⟩ :=
    (g.yields_localFindings o s : Yields (g.resolvedOver o registry s) _ _) _ _ _ hlocal
  have hextends : (Run.begin registry none).resolver.Extends (g.resolvedOver o registry s) := hleft
  obtain ⟨found, hfound, rfl⟩ := htold (.refl _)
  refine ⟨⟨found, hfound, rfl⟩, fun n hn hnamed => ?_, fun kind => hextends.answer_of_begin,
    fun kind => hextends.category_of_begin, ?_⟩
  · exact hextends.answer_eq_of_begin (hfound.fields.every n hn hnamed).1 hnamed
  intro f hf hcode n hn hid hkind
  rw [(Report.perm_all_ofFindings _).mem_iff] at hf
  obtain ⟨check, -, hf⟩ := List.mem_flatMap.mp hf
  obtain ⟨m, hm, hmid, hsome⟩ | hsaid := hfound.exists_of_schemaBased hs hf hcode
  · -- the node at which it stands is the one whose kind is not registered
    have hsame : m = n := (Snapshot.consistent_of_ofBatches hs).eq_of_id_eq hm hn
      (Option.some.inj (hmid.symm.trans hid))
    rw [hsame, hextends.answer_of_begin hkind] at hsome
    cases hsome
  · exact hsaid

/-! ## 4. The registry of a gate -/

/-- **A gate whose registry was built by calls goes by that registry if there was a call, and by the
built-in one if there was none.**  Over either, a kind that is not registered has no schema, no category
but the one that its name tells, and no finding that would need a schema. -/
theorem reports_over_registry (g : Gate) (o : Options) (calls : List Registration)
    (hregistry : g.registry = .built calls) (nodes : Batch Node) (edges : Batch Edge)
    (hlists : (nodes.isList && edges.isList) = true) (hlookup : o.lookup = none)
    (hunwanted : o.withBackend.truthy = false) (mayWait : Bool) (t : Transport) :
    (calls ≠ [] →
        (g.validate o mayWait nodes edges t).result = g.reportOver o (.built calls) nodes edges) ∧
      (calls = [] →
        (g.validate o mayWait nodes edges t).result = g.reportOver o .builtin nodes edges) ∧
      ∀ registry report, g.reportOver o registry nodes edges = .ok report →
        ∃ s, Snapshot.ofBatches nodes edges = .ok s ∧
          (s.isEmpty = false → g.GoesBy o registry s report) := by
  have hresult := result_validate_eq_reportOver (g := g) hlists hlookup hunwanted mayWait t
  refine ⟨fun hcalls => ?_, fun hcalls => ?_, fun registry report => goesBy_of_reportOver⟩
  · rw [hresult, schemas, hregistry, if_neg (mt (Registry.size_built_eq_zero_iff calls).mp hcalls)]
  · rw [hresult, schemas, hregistry, if_pos ((Registry.size_built_eq_zero_iff calls).mpr hcalls)]

/-- A registry of one schema, which asks for nothing. -/
def frugal : List Registration := [{ schema := { kind := "http_request" } }]

/-- A trigger and a request behind it. -/
def requestNodes : List Value :=
  [.ofFields [("id", .text "T"), ("kind", .text "manual_trigger")],
   .ofFields [("id", .text "A"), ("kind", .text "http_request")]]

/-- Their edge. -/
def requestEdges : List Value := [.ofFields [("source", .text "T"), ("target", .text "A")]]

/-- The request as it is read: it has no address. -/
def bareRequest : Node := ⟨"A", "http_request", [], none, none⟩

/-- The graph of that canvas. -/
def requestSnapshot : Snapshot :=
  .ofReadings [.node ⟨"T", "manual_trigger", [], none, none⟩, .node bareRequest]
    [some ⟨"T->A", "T", "A", none, none⟩]

/-- The gate whose registry nobody has registered anything in. -/
def blankGate : Gate := { registry := .built [] }

/-- A run by a registry of one schema, and one by a registry of none. -/
theorem reports_over_registry_request :
    (({ registry := .built frugal } : Gate).validate {} true (.ofValue (.list requestNodes))
        (.ofValue (.list requestEdges)) { deliver := fun _ => .silence }).result =
      ({ registry := .built frugal } : Gate).reportOver {} (.built frugal)
        (.ofValue (.list requestNodes)) (.ofValue (.list requestEdges)) ∧
      (blankGate.validate {} true (.ofValue (.list requestNodes)) (.ofValue (.list requestEdges))
        { deliver := fun _ => .silence }).result =
      blankGate.reportOver {} .builtin (.ofValue (.list requestNodes))
        (.ofValue (.list requestEdges)) := by
  generalize ({ deliver := fun _ => .silence } : Transport) = t
  obtain ⟨hchosen, -, -⟩ := reports_over_registry { registry := .built frugal } {} frugal rfl
    (.ofValue (.list requestNodes)) (.ofValue (.list requestEdges)) rfl rfl rfl true t
  obtain ⟨-, hbuiltin, -⟩ := reports_over_registry blankGate {} [] rfl
    (.ofValue (.list requestNodes)) (.ofValue (.list requestEdges)) rfl rfl rfl true t
  exact ⟨hchosen (by simp [frugal]), hbuiltin rfl⟩

/-- The built-in schema wants an address for the request, whatever else is said of it. -/
theorem exists_missing_address (rejected : Bool) {found : List Finding}
    (h : bareRequest.findingsBy .builtin (Registry.builtin.find? bareRequest.kind) rejected =
      .ok found) : ∃ f ∈ found, f.code = .missingRequiredField := by
  have hany : ((bareRequest.findingsBy .builtin (Registry.builtin.find? bareRequest.kind)
      rejected).toOption.getD []).any (fun f => f.code = .missingRequiredField) = true := by
    cases rejected <;> decide +kernel
  rw [h] at hany
  obtain ⟨f, hf, hcode⟩ := List.any_eq_true.mp hany
  exact ⟨f, hf, of_decide_eq_true hcode⟩

/-- **A registry that holds nothing is passed over**: the built-in schema of a kind that was never
registered in it is held against a node. -/
theorem empty_registry_passed_over :
    (blankGate.validate {} true (.ofValue (.list requestNodes)) (.ofValue (.list requestEdges))
        { deliver := fun _ => .silence }).result ≠
      blankGate.reportOver {} (.built []) (.ofValue (.list requestNodes))
        (.ofValue (.list requestEdges)) := by
  generalize ({ deliver := fun _ => .silence } : Transport) = t
  intro hsame
  have hs : Snapshot.ofBatches (.entries (requestNodes.map .raw)) (.entries (requestEdges.map .raw)) =
      .ok requestSnapshot := rfl
  have hmem : bareRequest ∈ requestSnapshot.nodeList := by
    have hthere : requestSnapshot.nodeList[1]? = some bareRequest := rfl
    exact List.mem_of_getElem? hthere
  obtain ⟨report, hreport⟩ := exists_report_of_judgeable blankGate (o := {}) rfl rfl
    Gate.usable_default rfl true hs
    (Snapshot.judgeable_of_blank (by decide +kernel) (by decide +kernel)) t
  -- the run goes by the built-in registry, and says that the address is missing
  have hover : blankGate.reportOver {} .builtin (.ofValue (.list requestNodes))
      (.ofValue (.list requestEdges)) = .ok report :=
    (result_validate_eq_reportOver (g := blankGate) (o := {}) rfl rfl rfl true t).symm.trans hreport
  obtain ⟨s, hs', hbuiltin⟩ := goesBy_of_reportOver hover
  obtain rfl : requestSnapshot = s := Except.ok.inj (hs.symm.trans hs')
  have hnodes := requestSnapshot.isEmpty_of_mem_nodeList hmem
  obtain ⟨found, hfound, rfl⟩ := (hbuiltin hnodes).found
  obtain ⟨-, rejected, part, hpart, hpart_mem⟩ := hfound.fields.every bareRequest hmem rfl
  rw [(hbuiltin hnodes).schema bareRequest hmem rfl] at hpart
  obtain ⟨f, hf, hcode⟩ := exists_missing_address rejected hpart
  -- over the empty registry only a refinement could say so, and none does
  obtain ⟨s, hs'', hempty⟩ := goesBy_of_reportOver (hsame.symm.trans hreport)
  obtain rfl : requestSnapshot = s := Except.ok.inj (hs.symm.trans hs'')
  have hall : f ∈ (Report.ofFindings (Check.all.flatMap found)).all := by
    rw [(Report.perm_all_ofFindings _).mem_iff]
    exact List.mem_flatMap.mpr ⟨.fields, Check.mem_all _, hpart_mem f hf⟩
  obtain ⟨m, -, r, hr, hsaid⟩ := (hempty hnodes).unsaid f hall (hcode ▸ by decide) bareRequest hmem
    (Node.nodeId_of_mem_findingsBy hpart hf) List.not_mem_nil
  have hrefined := Refinement.code_mem_of_mem_said hr hsaid
  rw [hcode] at hrefined
  exact absurd hrefined (by decide)

end Gate

end WorkflowGate
