/-
# Outlets of nodes that branch

Two checks read the handles that edges leave.  The check of branches looks for words in the names of the
handles of one node, through the index of its edges; the check of handles goes through all edges and
compares each name with what the schema of the kind declares.  With the schemas of the palette the two give
the same advice: whatever the one misses the other refuses, and whatever the one takes for an outcome the
other accepts.

* `Consistent.refused_iff`: an edge is refused exactly when its handle has a name that holds none of the
  declared ones;
* `Consistent.exists_accepted`: a node one of whose handles has a declared word in its name has an edge
  that is accepted;
* `ofBatches_outletsAgree`: **the two checks agree on every node that branches**.
-/
import WorkflowGate.Proofs.Expressions
import WorkflowGate.Proofs.Tally

namespace WorkflowGate

open Result Run Resolver

/-! ## 1. One edge -/

namespace Edge

/-- The edge leaves a handle that has a name. -/
def LeavesNamed (e : Edge) : Prop := ∃ handle, namedHandle e.sourceHandle = some handle

/-- The edge leaves a handle whose name holds none of the given ones. -/
def missesAll (declared : List Text) (e : Edge) : Bool :=
  (namedHandle e.sourceHandle).any fun handle => declared.all fun id => !handle.contains id

end Edge

/-- What is said of the handles of an edge refuses the one that it leaves. -/
def Refused (said : Edge → List Finding) (e : Edge) : Prop :=
  ∃ f ∈ said e, f.code = .invalidSourceHandle

namespace Snapshot

variable {s : Snapshot} {n : Node} {e : Edge} {answer : Text → Option KindSchema}
  {declared : List Text} {code : Code}

/-- What is said of one end of an edge has the code for that end, and stands on the node there. -/
theorem mem_endFindingsBy {id : Text} {handle : Option Text}
    {declared : KindSchema → Option (List Text)} {code : Code} {edgeTo what : String} {f : Finding}
    (hs : s.Consistent) (hf : f ∈ s.endFindingsBy answer id handle declared code edgeTo what) :
    f.code = code ∧ f.nodeId = some id := by
  unfold endFindingsBy at hf
  split at hf
  next n named hfind hnamed =>
    obtain ⟨-, rfl⟩ := (Finding.mem_onlyIf _ _ _).mp hf
    rw [← (hs.find?_eq_some_iff.mp hfind).2]
    exact ⟨rfl, rfl⟩
  next => cases hf

/-- **How often an edge is refused on a node**: once if it leaves the node by a handle whose name holds
none of the declared ones, and not at all otherwise. -/
theorem Consistent.countP_handleFindingsBy (hs : s.Consistent) (hn : n ∈ s.nodeList)
    (hdeclared : (answer n.kind).bind (·.outputs) = some declared) (e : Edge) :
    (s.handleFindingsBy answer e).countP
        (fun f => f.code = .invalidSourceHandle ∧ f.nodeId = some n.id) =
      if e.source = n.id ∧ e.missesAll declared = true then 1 else 0 := by
  -- what is said of the other end has a code of its own
  have htarget : (s.endFindingsBy answer e.target e.targetHandle (·.inputs) .invalidTargetHandle
      "Edge to" "input").countP (fun f => f.code = .invalidSourceHandle ∧ f.nodeId = some n.id) = 0 := by
    refine List.countP_eq_zero.mpr fun f hf => ?_
    rw [(mem_endFindingsBy hs hf).1]
    simp
  rw [handleFindingsBy, List.countP_append, htarget, Nat.add_zero]
  by_cases hsource : e.source = n.id
  · have hfind : s.nodes.find? e.source = some n := hs.find?_eq_some_iff.mpr ⟨hn, hsource.symm⟩
    unfold endFindingsBy Edge.missesAll
    rw [hfind]
    cases hnamed : Edge.namedHandle e.sourceHandle with
    | none => simp
    | some handle =>
      have hmisses : (!handleMatches handle declared) = declared.all fun id => !handle.contains id :=
        List.not_any_eq_all_not
      simp only [handleFinding, hdeclared, Option.any_some, hmisses, hsource, true_and]
      cases declared.all fun id => !handle.contains id with
      | true => simp [Finding.onlyIf, Finding.warning]
      | false => simp [Finding.onlyIf]
  · rw [if_neg fun h => hsource h.1]
    refine List.countP_eq_zero.mpr fun f hf => ?_
    rw [(mem_endFindingsBy hs hf).2]
    simp [hsource]

/-- **An edge is refused exactly when its handle has a name that holds none of the declared ones.** -/
theorem Consistent.refused_iff (hs : s.Consistent) (hn : n ∈ s.nodeList)
    (hdeclared : (answer n.kind).bind (·.outputs) = some declared) (he : e ∈ s.leaving n.id) :
    Refused (s.handleFindingsBy answer) e ↔ e.missesAll declared = true := by
  have hsource : e.source = n.id := of_decide_eq_true (List.mem_filter.mp he).2
  have hcount := hs.countP_handleFindingsBy hn hdeclared e
  have hpos : Refused (s.handleFindingsBy answer) e ↔ 0 < (s.handleFindingsBy answer e).countP
      fun f => f.code = .invalidSourceHandle ∧ f.nodeId = some n.id := by
    rw [List.countP_pos_iff]
    constructor
    · rintro ⟨f, hf, hcode⟩
      refine ⟨f, hf, decide_eq_true ⟨hcode, ?_⟩⟩
      rcases List.mem_append.mp hf with hf | hf
      · rw [(mem_endFindingsBy hs hf).2, hsource]
      · cases (mem_endFindingsBy hs hf).1.symm.trans hcode
    · rintro ⟨f, hf, hat⟩
      exact ⟨f, hf, (of_decide_eq_true hat).1⟩
  rw [hpos, hcount]
  cases e.missesAll declared <;> simp [hsource]

/-- The words that a check looks for stand in the names of the handles that the edges of the node leave. -/
theorem Consistent.anyMentions_iff (hs : s.Consistent) (hn : n ∈ s.nodeList) (word : Text) :
    anyMentions (s.handlesOut n.id) word = true ↔
      ∃ e ∈ s.leaving n.id, ∃ handle, Edge.namedHandle e.sourceHandle = some handle ∧
        handle.contains word = true := by
  have hkey : n.id ∈ s.nodes.keys := hs.map_id_nodeList ▸ List.mem_map_of_mem hn
  rw [anyMentions, handlesOut, edgesFrom, hs.outgoing_eq n.id hkey, Option.getD_some, List.any_eq_true]
  constructor
  · rintro ⟨handle, hhandle, hword⟩
    obtain ⟨e, he, hnamed⟩ := List.mem_filterMap.mp hhandle
    exact ⟨e, he, handle, hnamed, hword⟩
  · rintro ⟨e, he, handle, hnamed, hword⟩
    exact ⟨handle, List.mem_filterMap.mpr ⟨e, he, hnamed⟩, hword⟩

/-- **A node one of whose handles has a declared word in its name has an edge that is accepted.** -/
theorem Consistent.exists_accepted (hs : s.Consistent) (hn : n ∈ s.nodeList)
    (hdeclared : (answer n.kind).bind (·.outputs) = some declared) {word : Text} (hword : word ∈ declared)
    (h : anyMentions (s.handlesOut n.id) word = true) :
    ∃ e ∈ s.leaving n.id, e.LeavesNamed ∧ ¬ Refused (s.handleFindingsBy answer) e := by
  obtain ⟨e, he, handle, hnamed, hcontains⟩ := (hs.anyMentions_iff hn word).mp h
  refine ⟨e, he, ⟨handle, hnamed⟩, ?_⟩
  rw [hs.refused_iff hn hdeclared he, Edge.missesAll, hnamed, Option.any_some, List.all_eq_true]
  intro hmisses
  have := hmisses word hword
  rw [hcontains] at this
  cases this

/-- **All edges with named handles are refused exactly when none of these names holds a declared word.** -/
theorem Consistent.all_refused_iff (hs : s.Consistent) (hn : n ∈ s.nodeList)
    (hdeclared : (answer n.kind).bind (·.outputs) = some declared) :
    (∀ e ∈ s.leaving n.id, e.LeavesNamed → Refused (s.handleFindingsBy answer) e) ↔
      ∀ word ∈ declared, anyMentions (s.handlesOut n.id) word = false := by
  constructor
  · intro h word hword
    rw [← Bool.not_eq_true]
    intro hmentions
    obtain ⟨e, he, hnamed, haccepted⟩ := hs.exists_accepted hn hdeclared hword hmentions
    exact haccepted (h e he hnamed)
  · rintro h e he ⟨handle, hnamed⟩
    rw [hs.refused_iff hn hdeclared he, Edge.missesAll, hnamed, Option.any_some, List.all_eq_true]
    intro word hword
    rw [Bool.not_eq_true', ← Bool.not_eq_true]
    intro hcontains
    have hmentions := (hs.anyMentions_iff hn word).mpr ⟨e, he, handle, hnamed, hcontains⟩
    rw [h word hword] at hmentions
    cases hmentions

/-! ## 2. One node -/

/-- Something with a code is found on a node. -/
def Reported (found : List Finding) (n : Node) (code : Code) : Prop :=
  ∃ f ∈ found, f.code = code ∧ f.nodeId = some n.id

/-- What is found on the outcomes of a node that branches in two. -/
theorem reported_ifFindings_iff (hcode : code ≠ .missingCondition) :
    Reported (s.ifFindings n) n code ↔
      Reported (outcomeFindings n (anyMentions (s.handlesOut n.id) "true")
        (anyMentions (s.handlesOut n.id) "false")) n code := by
  constructor
  · rintro ⟨f, hf, rfl, hid⟩
    rcases List.mem_append.mp hf with hf | hf
    · rw [((Finding.mem_onlyIf _ _ _).mp hf).2] at hcode
      exact absurd rfl hcode
    · exact ⟨f, hf, rfl, hid⟩
  · rintro ⟨f, hf, hat⟩
    exact ⟨f, List.mem_append_right _ hf, hat⟩

theorem reported_outcomes_iff (hasTrue hasFalse : Bool) :
    (Reported (outcomeFindings n hasTrue hasFalse) n .noConditionalOutputs ↔
        hasTrue = false ∧ hasFalse = false) ∧
      (Reported (outcomeFindings n hasTrue hasFalse) n .noElsePath →
        hasTrue = true) := by
  cases hasTrue <;> cases hasFalse <;>
    simp [Reported, outcomeFindings, Finding.onlyIf, Finding.warning]

/-- Without a handle for the default case that is reported. -/
theorem reported_noDefaultCase {found : List Finding} (h : s.switchFindings n = .ok found)
    (hnone : anyMentions (s.handlesOut n.id) "default" = false) : Reported found n .noDefaultCase := by
  obtain ⟨count, -, h⟩ := bind_eq_ok_iff.mp h
  cases h
  exact ⟨_, List.mem_append_right _ ((Finding.mem_onlyIf _ _ _).mpr ⟨by rw [hnone]; rfl, rfl⟩), rfl, rfl⟩

/-- On one node the check of branches finds what it finds when it looks at it. -/
theorem Consistent.reported_branchFindings_iff (hs : s.Consistent) (hn : n ∈ s.nodeList)
    {found part : List Finding} (h : s.branchFindings = .ok found)
    (hpart : s.branchFindingsOf n = .ok part) :
    Reported found n code ↔ Reported part n code :=
  hs.exists_on_iff hn h (fun _ _ hpart _ hf => nodeId_of_mem_branchFindingsOf hpart hf)
    (fun _ hat => hat.2) fun other hother => by rw [Except.ok.inj (hpart.symm.trans hother)]; rfl

/-! ## 3. Both checks -/

/-- The handles that edges may leave nodes of these kinds by. -/
theorem outputs_ifKind : (Registry.builtin.find? ifKind).bind (·.outputs) =
    some [Text.ofString "true", Text.ofString "false"] := by decide +kernel

theorem outputs_switchKind : (Registry.builtin.find? switchKind).bind (·.outputs) =
    some [Text.ofString "case", Text.ofString "default"] := by decide +kernel

/-- **The two checks agree on a node that branches.**  `said` is what the check of handles says of each
edge. -/
structure OutletsAgree (s : Snapshot) (said : Edge → List Finding) (n : Node) : Prop where
  /-- A node that branches in two has no outcomes exactly when every edge that leaves it by a handle with a
  name is refused. -/
  noOutcomes : n.kind = ifKind → ∀ found, s.branchFindings = .ok found →
    (Reported found n .noConditionalOutputs ↔
      ∀ e ∈ s.leaving n.id, e.LeavesNamed → Refused said e)
  /-- Where only one outcome is missing some edge is accepted. -/
  noElse : n.kind = ifKind → ∀ found, s.branchFindings = .ok found →
    Reported found n .noElsePath → ∃ e ∈ s.leaving n.id, e.LeavesNamed ∧ ¬ Refused said e
  /-- So it is where the default case is not missing. -/
  default : n.kind = switchKind → ∀ found, s.branchFindings = .ok found →
    ¬ Reported found n .noDefaultCase → ∃ e ∈ s.leaving n.id, e.LeavesNamed ∧ ¬ Refused said e
  /-- As many edges are refused on the node as leave it by a handle whose name holds none of the declared
  ones. -/
  tally : n.kind = ifKind ∨ n.kind = switchKind → ∃ declared,
    (Registry.builtin.find? n.kind).bind (·.outputs) = some declared ∧
      (s.edges.flatMap said).countP (fun f => f.code = .invalidSourceHandle ∧ f.nodeId = some n.id) =
        (s.leaving n.id).countP fun e => e.missesAll declared

/-- What is said of edges is counted edge by edge. -/
theorem countP_flatMap_eq {α β : Type} {value : α → List β} {test : β → Bool} {counts : α → Prop}
    [DecidablePred counts] {xs : List α}
    (h : ∀ x ∈ xs, (value x).countP test = if counts x then 1 else 0) :
    (xs.flatMap value).countP test = xs.countP fun x => counts x := by
  induction xs with
  | nil => rfl
  | cons x rest ih =>
    rw [List.flatMap_cons, List.countP_append, h x List.mem_cons_self,
      ih fun y hy => h y (List.mem_cons_of_mem _ hy), List.countP_cons, Nat.add_comm]
    simp

theorem Consistent.outletsAgree (hs : s.Consistent) (hn : n ∈ s.nodeList) :
    s.OutletsAgree (s.handleFindingsBy Registry.builtin.find?) n := by
  have hbranch (hkind : n.kind = ifKind) : s.branchFindingsOf n = .ok (s.ifFindings n) := if_pos hkind
  have hif (hkind : n.kind = ifKind) : (Registry.builtin.find? n.kind).bind (·.outputs) =
      some [Text.ofString "true", Text.ofString "false"] := hkind ▸ outputs_ifKind
  have hswitch (hkind : n.kind = switchKind) : (Registry.builtin.find? n.kind).bind (·.outputs) =
      some [Text.ofString "case", Text.ofString "default"] := hkind ▸ outputs_switchKind
  constructor
  case noOutcomes =>
    intro hkind found h
    rw [hs.reported_branchFindings_iff hn h (hbranch hkind), reported_ifFindings_iff (by decide),
      (reported_outcomes_iff _ _).1, hs.all_refused_iff hn (hif hkind)]
    simp
  case noElse =>
    intro hkind found h hreported
    rw [hs.reported_branchFindings_iff hn h (hbranch hkind),
      reported_ifFindings_iff (by decide)] at hreported
    exact hs.exists_accepted hn (hif hkind) List.mem_cons_self ((reported_outcomes_iff _ _).2 hreported)
  case default =>
    intro hkind found h hunreported
    -- the cases of the node could be counted, since the check has come to an end
    obtain ⟨parts, hparts, -⟩ := map_eq_ok_iff.mp h
    obtain ⟨part, hpart⟩ := succeeds_mapM_iff.mp ⟨parts, hparts⟩ n hn
    have hfindings : s.switchFindings n = .ok part := by
      rw [branchFindingsOf, if_neg (by rw [hkind]; decide), if_pos hkind] at hpart
      exact hpart
    rw [hs.reported_branchFindings_iff hn h hpart] at hunreported
    have hmentions : anyMentions (s.handlesOut n.id) "default" = true := by
      rw [← Bool.not_eq_false]
      exact fun hnone => hunreported (reported_noDefaultCase hfindings hnone)
    exact hs.exists_accepted hn (hswitch hkind) (by simp) hmentions
  case tally =>
    intro hkind
    obtain ⟨declared, hdeclared⟩ : ∃ declared,
        (Registry.builtin.find? n.kind).bind (·.outputs) = some declared :=
      hkind.elim (fun h => ⟨_, hif h⟩) fun h => ⟨_, hswitch h⟩
    refine ⟨declared, hdeclared, ?_⟩
    rw [countP_flatMap_eq fun e _ => hs.countP_handleFindingsBy hn hdeclared e, leaving,
      List.countP_filter]
    simp [Bool.and_comm]

/-- **The checks of branches and of handles agree on every node that branches**, with the schemas of the
palette and whatever has been resolved before.  The check of handles says of each edge on the canvas what
it says of it alone. -/
theorem ofBatches_outletsAgree {nodes : Batch Node} {edges : Batch Edge}
    (hs : Snapshot.ofBatches nodes edges = .ok s) {st : RunState}
    (hst : Steady .builtin (tableOf .builtin none) st.resolver) :
    ∃ said : Edge → List Finding,
      (s.handleFindings.execute st).1 = .ok (s.edges.flatMap said) ∧
        (∀ e ∈ s.edges, ((s.handleFindingsOf e).execute st).1 = .ok (said e)) ∧
        ∀ n ∈ s.nodeList, s.OutletsAgree said n := by
  have hanswered : s.Answered (tableOf .builtin none) := fun _ _ _ => succeeds_ok _
  have hresult {α : Type} {m : Run α} {x : Except Fault α}
      (h : Computes .builtin (tableOf .builtin none) m x) : (m.execute st).1 = x := by
    obtain ⟨st', hrun, -⟩ := h st hst
    rw [hrun]
  refine ⟨s.handleFindingsBy (schemaBy (tableOf .builtin none)),
    hresult hanswered.computes_handleFindings,
    fun e _ => hresult (hanswered.computes_handleFindingsOf e), fun n hn => ?_⟩
  rw [funext schemaBy_builtin]
  exact (consistent_of_ofBatches hs).outletsAgree hn

/-- A node that branches in two, as it is handed over with the node after it. -/
def strayNodes : Value :=
  .list [.ofFields [("id", .text "f"), ("kind", .text "if")],
    .ofFields [("id", .text "a"), ("kind", .text "set")]]

/-- The only edge, which leaves by a handle that is for neither outcome. -/
def strayEdges : Value :=
  .list [.ofFields [("id", .text "e"), ("source", .text "f"), ("target", .text "a"),
    ("source_handle", .text "maybe")]]

/-- The node that branches. -/
def strayNode : Node := ⟨"f", "if", [], none, none⟩

/-- The canvas that is read. -/
def straySnapshot : Snapshot :=
  Snapshot.ofReadings [.node strayNode, .node ⟨"a", "set", [], none, none⟩]
    [some ⟨"e", "f", "a", some "maybe", none⟩]

/-- The one check finds no outcomes on the node, and the other refuses its edge. -/
theorem ofBatches_outletsAgree_stray :
    ofBatches (.ofValue strayNodes) (.ofValue strayEdges) = .ok straySnapshot ∧
      strayNode ∈ straySnapshot.nodeList ∧
      ∃ said found, (straySnapshot.handleFindings.execute (Run.begin .builtin none)).1 =
          .ok (straySnapshot.edges.flatMap said) ∧
        straySnapshot.OutletsAgree said strayNode ∧ straySnapshot.branchFindings = .ok found ∧
        Reported found strayNode .noConditionalOutputs ∧
        ∀ e ∈ straySnapshot.leaving strayNode.id, e.LeavesNamed → Refused said e := by
  have hread : ofBatches (.ofValue strayNodes) (.ofValue strayEdges) = .ok straySnapshot := by rfl
  have hn : strayNode ∈ straySnapshot.nodeList := (List.mem_cons_self : _ ∈ [strayNode, _])
  obtain ⟨said, hall, -, hagree⟩ := ofBatches_outletsAgree hread (steady_begin_tableOf .builtin none)
  have hfound : straySnapshot.branchFindings = .ok (straySnapshot.ifFindings strayNode) := by rfl
  have hreported : Reported (straySnapshot.ifFindings strayNode) strayNode .noConditionalOutputs := by
    rw [reported_ifFindings_iff (by decide), (reported_outcomes_iff _ _).1]
    decide +kernel
  exact ⟨hread, hn, said, _, hall, hagree strayNode hn, hfound, hreported,
    ((hagree strayNode hn).noOutcomes rfl _ hfound).mp hreported⟩

end Snapshot

end WorkflowGate
