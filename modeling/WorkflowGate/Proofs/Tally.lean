/-
# How often a run reports a missing value

With the built-in palette and its refinements the checks of a run report each value that a node must have
and lacks once, and no other.  Nothing can come between: no other check uses these codes, the findings on
a node are on no other node, and a refinement that fails does so on a value on which the run itself has
failed before.

A back end is another matter.  It has the same codes and can report what it likes under them, so in a
report with its answer there may be more.

* `Node.Owes`: a value that the node must have is missing;
* `Gate.Itemizes.countMissing_eq`: **the checks report it once, and else nothing**;
* `Gate.countMissing_report`: so does every report, and what asking comes to is added to that;
* `Gate.countMissing_answered`: what a back end can add.
-/
import WorkflowGate.Proofs.Check.Duties
import WorkflowGate.Proofs.Itemized
import WorkflowGate.Proofs.Unavailable
import WorkflowGate.Text.Utf8

namespace WorkflowGate

open Result Run Finding Resolver

variable {n : Node} {field : Text}

/-! ## 1. Nodes -/

/-- No schema of the palette is for the kind without a name. -/
theorem Registry.find?_builtin_empty : Registry.builtin.find? Text.empty = none := by
  decide +kernel

/-- Without a lookup the schema of a kind is that of the palette. -/
theorem Resolver.schemaBy_builtin (kind : Text) :
    schemaBy (tableOf .builtin none) kind = Registry.builtin.find? kind := by
  cases hkind : kind.isEmpty with
  | true =>
    rw [(Text.isEmpty_iff kind).mp hkind, Registry.find?_builtin_empty]
    rfl
  | false => simp [schemaBy, schemaFor, hkind, tableOf, Except.toOption]

namespace Node

/-- **A value that the node must have is missing**, by the schema of the palette and the refinements for
its kind. -/
def Owes (n : Node) (credentials : Bool) (field : Text) : Prop :=
  ∃ schema, Registry.builtin.find? n.kind = some schema ∧
    n.Lacks (RefinementRegistry.builtin.ownedFields n.kind) credentials schema field

theorem owes_iff_of_known {schema : KindSchema} (h : Registry.builtin.find? n.kind = some schema)
    (credentials : Bool) (field : Text) : n.Owes credentials field ↔
      n.Lacks (RefinementRegistry.builtin.ownedFields n.kind) credentials schema field := by
  simp [Owes, h]

theorem not_owes_of_unknown (h : Registry.builtin.find? n.kind = none) (credentials : Bool)
    (field : Text) : ¬ n.Owes credentials field := by
  simp [Owes, h]

instance (n : Node) (credentials : Bool) : DecidablePred (n.Owes credentials) := fun field =>
  match h : Registry.builtin.find? n.kind with
  | some _ => decidable_of_iff _ (owes_iff_of_known h credentials field).symm
  | none => .isFalse (not_owes_of_unknown h credentials field)

/-- What is found on the fields of a node is on the node. -/
theorem nodeId_of_mem_fieldFindingsBy {answers : Text → Except Fault Resolver.Loaded}
    {found : List Finding} (h : n.fieldFindingsBy .builtin answers = .ok found) {f : Finding}
    (hf : f ∈ found) : f.nodeId = some n.id := by
  unfold fieldFindingsBy at h
  split at h
  · cases h
    cases hf
  · obtain ⟨loaded, -, h⟩ := bind_eq_ok_iff.mp h
    exact nodeId_of_mem_findingsBy h hf

/-- **What the checks of fields and of credentials report of a node**: each value that it must have and
lacks once. -/
theorem countMissing_fieldFindingsBy {found : List Finding}
    (h : n.fieldFindingsBy .builtin (tableOf .builtin none) = .ok found) (credentials : Bool)
    (field : Text) :
    countMissing n.id field (found ++ if credentials then
        ((Registry.builtin.find? n.kind).map n.missingCredentials).getD [] else []) =
      if n.Owes credentials field then 1 else 0 := by
  have hjudged : n.kind.isEmpty = false →
      n.findingsBy .builtin (Registry.builtin.find? n.kind) false = .ok found := by
    intro hkind
    rw [fieldFindingsBy, hkind] at h
    exact h
  cases hschema : Registry.builtin.find? n.kind with
  | some schema =>
    have hkind : n.kind.isEmpty = false := by
      rw [← Bool.not_eq_true]
      intro hempty
      rw [(Text.isEmpty_iff n.kind).mp hempty, Registry.find?_builtin_empty] at hschema
      cases hschema
    rw [if_congr (owes_iff_of_known hschema credentials field) rfl rfl]
    exact countMissing_findingsBy (hschema ▸ hjudged hkind) hschema credentials field
  | none =>
    have hfound : countMissing n.id field found = 0 := by
      cases hkind : n.kind.isEmpty with
      | true =>
        rw [fieldFindingsBy, if_pos hkind] at h
        cases h
        rfl
      | false => exact countMissing_of_unknown (hschema ▸ hjudged hkind) hschema field
    rw [if_neg (not_owes_of_unknown hschema credentials field), countMissing_append, hfound]
    cases credentials <;> rfl

end Node

namespace Snapshot

variable {s : Snapshot}

/-- **What is found node by node reports a node as often as what is found on that node.** -/
theorem Consistent.countMissing_flatMap (hs : s.Consistent) (hn : n ∈ s.nodeList)
    {value : Node → List Finding}
    (hvalue : ∀ m ∈ s.nodeList, ∀ f ∈ value m, f.nodeId = some m.id) :
    countMissing n.id field (s.nodeList.flatMap value) = countMissing n.id field (value n) := by
  have hother {ms : List Node} (hms : ∀ m ∈ ms, m ∈ s.nodeList ∧ m.id ≠ n.id) :
      countMissing n.id field (ms.flatMap value) = 0 := by
    refine countMissing_eq_zero fun f hf hreports => ?_
    obtain ⟨m, hm, hf⟩ := List.mem_flatMap.mp hf
    obtain ⟨hmem, hne⟩ := hms m hm
    exact hne (Option.some.inj ((hvalue m hmem f hf).symm.trans hreports.1))
  have hnodup : (s.nodeList.map Node.id).Nodup := hs.map_id_nodeList ▸ s.nodes.nodup_keys
  obtain ⟨before, after, hsplit⟩ := List.append_of_mem hn
  rw [hsplit, List.map_append, List.map_cons, List.nodup_middle, List.nodup_cons,
    ← List.map_append] at hnodup
  have hne : ∀ m ∈ before ++ after, m ∈ s.nodeList ∧ m.id ≠ n.id := by
    intro m hm
    refine ⟨?_, fun hid => hnodup.1 (List.mem_map.mpr ⟨m, hm, hid⟩)⟩
    rw [hsplit]
    exact List.mem_append.mpr ((List.mem_append.mp hm).imp_right (List.mem_cons_of_mem n))
  rw [hsplit, List.flatMap_append, List.flatMap_cons, countMissing_append, countMissing_append,
    hother fun m hm => hne m (List.mem_append_left _ hm),
    hother fun m hm => hne m (List.mem_append_right _ hm), Nat.zero_add, Nat.add_zero]

end Snapshot

/-! ## 2. Checks -/

namespace Gate

variable {g : Gate} {o : Options} {s : Snapshot} {registry : Registry}
  {answers : Text → Except Fault Resolver.Loaded} {found : Check → List Finding}
  {nodes : Batch Node} {edges : Batch Edge}

/-- The lists of a run told from a table of answers come from their checks. -/
theorem Itemizes.attributes (h : g.Itemizes o s registry answers found) : g.Attributes s found where
  input := h.input
  triggers := ⟨_, h.triggers⟩
  cycles := by
    obtain ⟨report, -, hcycles⟩ := h.cycles
    exact ⟨report, hcycles⟩
  connections := by
    obtain ⟨report, -, hconnections⟩ := h.connections
    exact ⟨report, _, hconnections⟩
  credentials f hf := by
    rw [h.credentials] at hf
    split at hf
    · obtain ⟨n, -, hf⟩ := List.mem_flatMap.mp hf
      cases hschema : schemaBy answers n.kind with
      | none =>
        rw [hschema] at hf
        cases hf
      | some schema =>
        rw [hschema] at hf
        exact ⟨n, schema, hf⟩
    · cases hf
  branches := h.branches
  timeouts := h.timeouts
  complexity := by
    obtain ⟨large, advice, hlarge, hadvice, hcomplexity⟩ := h.complexity
    exact ⟨large, advice, _, _, hlarge, hadvice, hcomplexity⟩
  handles := ⟨_, h.handles⟩

/-- A check that reports something as missing is that of fields or that of credentials. -/
theorem Attributes.eq_of_missingValue (h : g.Attributes s found)
    (hs : Snapshot.ofBatches nodes edges = .ok s) {check : Check} {f : Finding}
    (hf : f ∈ found check) (hcode : f.code ∈ Code.missingValue) :
    check = .fields ∨ check = .credentials := by
  by_cases hne : check = .fields
  · exact .inl hne
  · have hchecks : ∀ code ∈ Code.missingValue,
        code.check? = some .fields ∨ code.check? = some .credentials := by decide
    have hreported := h.reportedBy_of_mem hs hne hf
    exact (hchecks f.code hcode).imp (fun heq => Option.some.inj (hreported.symm.trans heq))
      fun heq => Option.some.inj (hreported.symm.trans heq)

/-- **Only the checks of fields and of credentials report values as missing.** -/
theorem Attributes.countMissing_all (h : g.Attributes s found)
    (hs : Snapshot.ofBatches nodes edges = .ok s) (node field : Text) :
    countMissing node field (Check.all.flatMap found) =
      countMissing node field (found .fields) + countMissing node field (found .credentials) := by
  have hother (check : Check) (hfields : check ≠ .fields) (hcredentials : check ≠ .credentials) :
      countMissing node field (found check) = 0 :=
    countMissing_of_codes fun f hf hcode =>
      (h.eq_of_missingValue hs hf hcode).elim hfields hcredentials
  simp [Check.all, countMissing_append, hother]

/-- What the check of fields reports of a node is what it finds on that node. -/
theorem Itemizes.exists_countMissing_fields (h : g.Itemizes o s registry answers found)
    (hrefinements : g.refinements = .builtin) (hs : s.Consistent) (hn : n ∈ s.nodeList)
    (field : Text) :
    ∃ onNode, n.fieldFindingsBy .builtin answers = .ok onNode ∧
      countMissing n.id field (found .fields) = countMissing n.id field onNode := by
  have hfields := h.fields
  rw [hrefinements] at hfields
  obtain ⟨value, hvalue, hall⟩ := exists_eq_flatMap_of_flatten_mapM hfields
  refine ⟨value n, hvalue n hn, ?_⟩
  rw [hall]
  exact hs.countMissing_flatMap hn fun m hm _ hf =>
    Node.nodeId_of_mem_fieldFindingsBy (hvalue m hm) hf

/-- What the check of credentials reports of a node is what it finds on that node. -/
theorem Itemizes.countMissing_credentials (h : g.Itemizes o s registry answers found)
    (hs : s.Consistent) (hn : n ∈ s.nodeList) (field : Text) :
    countMissing n.id field (found .credentials) = countMissing n.id field
      (if o.checkCredentials.truthy then
        ((schemaBy answers n.kind).map n.missingCredentials).getD [] else []) := by
  rw [h.credentials]
  cases o.checkCredentials.truthy with
  | false => rfl
  | true =>
    refine hs.countMissing_flatMap hn fun m _ f hf => ?_
    cases hschema : schemaBy answers m.kind with
    | none =>
      rw [hschema] at hf
      cases hf
    | some schema =>
      rw [hschema] at hf
      exact Node.nodeId_of_mem_missingCredentials hf

/-- **The checks of a run report a value that a node must have and lacks once, and else nothing.** -/
theorem Itemizes.countMissing_eq (h : g.Itemizes o s .builtin (tableOf .builtin none) found)
    (hrefinements : g.refinements = .builtin) (hs : Snapshot.ofBatches nodes edges = .ok s)
    (hn : n ∈ s.nodeList) (field : Text) :
    countMissing n.id field (Check.all.flatMap found) =
      if n.Owes o.checkCredentials.truthy field then 1 else 0 := by
  have hconsistent := Snapshot.consistent_of_ofBatches hs
  obtain ⟨onNode, honNode, hfields⟩ :=
    h.exists_countMissing_fields hrefinements hconsistent hn field
  rw [h.attributes.countMissing_all hs, hfields, h.countMissing_credentials hconsistent hn,
    schemaBy_builtin, ← countMissing_append]
  exact Node.countMissing_fieldFindingsBy honNode _ field

/-- **What the checks of a run report as missing are errors.** -/
theorem Itemizes.grave (h : g.Itemizes o s registry answers found)
    (hrefinements : g.refinements = .builtin) (hs : Snapshot.ofBatches nodes edges = .ok s)
    {f : Finding} (hf : f ∈ Check.all.flatMap found) : f.Grave := by
  intro hcode
  obtain ⟨check, -, hf⟩ := List.mem_flatMap.mp hf
  obtain rfl | rfl := h.attributes.eq_of_missingValue hs hf hcode
  · obtain ⟨m, -, onNode, honNode, hf⟩ := exists_of_mem_flatten_mapM h.fields hf
    unfold Node.fieldFindingsBy at honNode
    split at honNode
    · cases honNode
      cases hf
    · obtain ⟨loaded, -, honNode⟩ := bind_eq_ok_iff.mp honNode
      rw [hrefinements] at honNode
      exact Node.grave_of_mem_findingsBy honNode hf hcode
  · obtain ⟨m, schema, hf⟩ := h.attributes.credentials f hf
    exact Node.grave_of_mem_missingCredentials hf hcode

/-! ## 3. Reports -/

variable {mayWait : Bool} {t : Transport} {report : Report}

/-- **In every report a value that a node must have and lacks is reported once, as an error, and no other
value is**, with the built-in palette and its refinements and without a lookup.  That holds of what the run
finds by itself.  What asking comes to is added to it, which is nothing where no back end is wanted. -/
theorem countMissing_report (hschemas : g.schemas = .builtin) (hrefinements : g.refinements = .builtin)
    (hlookup : o.lookup = none) (hlists : (nodes.isList && edges.isList) = true)
    (hs : Snapshot.ofBatches nodes edges = .ok s)
    (hreport : (g.validate o mayWait nodes edges t).result = .ok report) (hn : n ∈ s.nodeList)
    (field : Text) :
    ∃ own more, (g.validate o.withoutBackend mayWait nodes edges t).result = .ok own ∧
      countMissing n.id field own.all = (if n.Owes o.checkCredentials.truthy field then 1 else 0) ∧
      (∀ f ∈ own.all, f.ReportsMissing n.id field → f.severity = .error) ∧
      report.all.Perm (own.all ++ more) ∧ (o.withBackend.truthy = false → more = []) ∧
      ∀ x, (g.question o mayWait s).exchange t = some x →
        ∃ outcome, x.result = .ok outcome ∧ more = outcome.findings := by
  have hnodes := s.isEmpty_of_mem_nodeList hn
  obtain ⟨own, more, hown, rfl, hnone, hsome⟩ := exists_own_of_report hlists hs hnodes hreport
  have hwithout : o.withoutBackend.lookup =
      (none : Option (Text → Except Fault LookupReply)).map .ofFunction := hlookup
  obtain ⟨found, hfound, hall⟩ := exists_itemizes hlists hs hnodes hwithout rfl hown
  rw [hschemas] at hfound
  refine ⟨_, more, hown, ?_, fun f hf hreports => ?_, ?_, hnone, hsome⟩
  · rw [hall, countMissing, (Report.perm_all_ofFindings _).countP_eq]
    exact hfound.countMissing_eq hrefinements hs hn field
  · rw [hall, (Report.perm_all_ofFindings _).mem_iff] at hf
    exact hfound.grave hrefinements hs hf hreports.2.2
  · exact (Report.perm_all_ofFindings _).trans
      ((Report.perm_all_ofFindings own).symm.append_right more)

/-- A trigger, and a language model that is told nothing. -/
def promptlessNodes : List Value :=
  [.ofFields [("id", .text "start"), ("kind", .text "manual_trigger")],
   .ofFields [("id", .text "model"), ("kind", .text "openai")]]

/-- The model that is told nothing. -/
def promptlessNode : Node := ⟨"model", "openai", [], none, none⟩

/-- The graph of that canvas. -/
def promptlessSnapshot : Snapshot :=
  .ofReadings [.node ⟨"start", "manual_trigger", [], none, none⟩, .node promptlessNode] []

theorem schemas_default (backend : Option Authority) :
    ({ backend := backend } : Gate).schemas = .builtin := by
  unfold schemas
  split <;> rfl

/-- The report on that canvas says once that the prompt is missing. -/
theorem countMissing_report_promptless : ∃ report,
    (({} : Gate).validate {} true (.ofValue (.list promptlessNodes)) (.ofValue (.list []))
      { deliver := fun _ => .silence }).result = .ok report ∧
      countMissing promptlessNode.id "prompt" report.all = 1 := by
  have hs : Snapshot.ofBatches (.entries (promptlessNodes.map .raw))
      (.entries (([] : List Value).map .raw)) = .ok promptlessSnapshot := rfl
  obtain ⟨report, hreport⟩ := exists_report_of_judgeable {} (o := {}) rfl rfl
    Gate.usable_default rfl true hs
    (Snapshot.judgeable_of_blank (by decide +kernel) (by decide +kernel))
    { deliver := fun _ => .silence }
  have hn : promptlessNode ∈ promptlessSnapshot.nodeList :=
    List.mem_cons_of_mem _ List.mem_cons_self
  have howes : promptlessNode.Owes true "prompt" := by decide +kernel
  obtain ⟨own, more, -, hcount, -, hall, hnone, -⟩ :=
    countMissing_report (schemas_default none) rfl rfl rfl hs hreport hn "prompt"
  obtain rfl := hnone rfl
  rw [List.append_nil] at hall
  exact ⟨report, hreport, hall.countP_eq _ |>.trans (hcount.trans (if_pos howes))⟩

/-- An answer that reports the prompt of a trigger as missing. -/
def promptBody : List UInt8 :=
  (Utf8.encode? (Text.ofString ("\x7b\"errors\": [\x7b\"code\": \"MISSING_PROMPT\", " ++
    "\"message\": \"m\", \"nodeId\": \"T\", \"field\": \"prompt\"\x7d]\x7d"))).getD []

/-- **A back end can report as missing what nobody must provide**: the prompt of a lone trigger. -/
theorem countMissing_answered : ∃ report,
    (backedGate.validate { withBackend := .bool true } true (.ofValue (.list [loneTrigger]))
      (.ofValue (.list [])) { deliver := fun _ => .answer 200 promptBody }).result = .ok report ∧
      backedGate.schemas = .builtin ∧ backedGate.refinements = .builtin ∧
      Snapshot.ofBatches (.ofValue (.list [loneTrigger])) (.ofValue (.list [])) =
        .ok loneSnapshot ∧
      loneNode ∈ loneSnapshot.nodeList ∧ ¬ loneNode.Owes true "prompt" ∧
      countMissing loneNode.id "prompt" report.all ≠ 0 := by
  have hown : Succeeds (backedGate.validate
      ({ withBackend := .bool true } : Options).withoutBackend true (.ofValue (.list [loneTrigger]))
      (.ofValue (.list [])) { deliver := fun _ => .answer 200 promptBody }).result :=
    backedGate.exists_report_of_judgeable rfl rfl Gate.usable_default rfl true
      (s := loneSnapshot) rfl (judgeable_loneSnapshot _) _
  obtain ⟨x, hx⟩ := backedGate.exists_exchange (o := { withBackend := .bool true }) rfl true
    loneSnapshot { deliver := fun _ => .answer 200 promptBody }
  have hend : ((backedGate.question { withBackend := .bool true } true loneSnapshot).exchange
      { deliver := fun _ => .answer 200 promptBody }).map
        (fun x => x.result.toOption.map (·.findings)) =
      some (some [.error .missingPrompt "m" (some "T") (some "prompt")]) := by decide +kernel
  rw [hx, Option.map_some, Option.some_inj] at hend
  obtain ⟨outcome, houtcome, hfindings⟩ := Option.map_eq_some_iff.mp hend
  obtain ⟨found, -, hreport⟩ :=
    exists_report_of_outcome rfl rfl rfl hown hx (eq_ok_of_toOption houtcome)
  have hadded : countMissing loneNode.id "prompt" outcome.findings = 1 := by
    rw [hfindings]
    decide +kernel
  refine ⟨_, hreport, schemas_default _, rfl, rfl, List.mem_cons_self, by decide +kernel, ?_⟩
  rw [countMissing, (Report.perm_all_ofFindings _).countP_eq, ← countMissing, countMissing_append,
    hadded]
  exact Nat.succ_ne_zero _

end Gate

end WorkflowGate
