/-
# One edge more

An edge *leads back* when its target is its source, or a node from which its source is reached.  Added
to a graph without cycles, such an edge closes one and any other edge closes none; and a cycle that is
reported then goes along the new edge, so the edge and both its ends are named in the report.

The search may take a wholly different course with the new edge, depending on where that stands in the
list, and nothing is said about its course here.  Two facts carry the argument instead: what a search
reports is a cycle, and it reports one when there is one.  A cycle that avoids the new edge would have
been there before; one along the new edge is a walk from its target back to its source.

* `edgeFates_insert`, `exists_edges_insert`: an entry with an id of its own leaves the fates of all
  others as they are, wherever it is put in;
* `Search.IsCycle.through`: in a graph with one edge more a cycle goes along that edge;
* `Consistent.detectCycle_insert`, `ofBatches_backEdge`: **what the search says with one edge more.**
-/
import WorkflowGate.Proofs.Graph.Acyclic
import WorkflowGate.Proofs.Graph.Ledger

namespace WorkflowGate

/-! ## 1. One entry more -/

namespace Snapshot

/-- An entry is judged as if an edge of another id were not before it. -/
theorem EdgeFate.due_insert (nodes : List Text) (before earlier : List (Option Edge)) {e : Edge}
    {r : Option Edge} (hfresh : r.map Edge.id ≠ some e.id) :
    due nodes (before ++ some e :: earlier) r = due nodes (before ++ earlier) r := by
  cases r with
  | none => rfl
  | some d =>
    have hne : d.id ≠ e.id := fun h => hfresh (congrArg some h)
    have hmet : d.id ∈ (before ++ some e :: earlier).filterMap (Option.map Edge.id) ↔
        d.id ∈ (before ++ earlier).filterMap (Option.map Edge.id) := by
      simp [List.filterMap_append, hne]
    simp only [due, hmet]

/-- **An edge between nodes whose id no other entry brings is accepted, and all others fare as
before.** -/
theorem edgeFates_insert {nodes : List Text} {before after : List (Option Edge)} {e : Edge}
    (hfresh : ∀ r ∈ before ++ after, r.map Edge.id ≠ some e.id) (hsource : e.source ∈ nodes)
    (htarget : e.target ∈ nodes) :
    ∃ fates, edgeFates nodes (before ++ after) = edgeFates nodes before ++ fates ∧
      edgeFates nodes (before ++ some e :: after) =
        edgeFates nodes before ++ .accepted e :: fates := by
  refine ⟨judgeAll (fun earlier => EdgeFate.due nodes (before ++ earlier)) after,
    judgeAll_append _ _ _, ?_⟩
  have hnew : e.id ∉ before.filterMap (Option.map Edge.id) := by
    intro hmet
    obtain ⟨r, hr, hid⟩ := List.mem_filterMap.mp hmet
    exact hfresh r (List.mem_append_left _ hr) hid
  have haccepted : EdgeFate.due nodes before (some e) = .accepted e := by
    rw [EdgeFate.due, if_neg hnew, if_pos ⟨hsource, htarget⟩]
  have hothers : judgeAll (fun earlier => EdgeFate.due nodes (before ++ [some e] ++ earlier)) after =
      judgeAll (fun earlier => EdgeFate.due nodes (before ++ earlier)) after := by
    refine judgeAll_congr fun earlier r hr => ?_
    rw [List.append_assoc, List.singleton_append]
    exact EdgeFate.due_insert nodes before earlier (hfresh r (List.mem_append_right _ hr))
  rw [List.append_cons, edgeFates, judgeAll_append, judgeAll_concat, haccepted, hothers,
    List.append_assoc]
  rfl

/-- **So the graph has one edge more**, at the place that belongs to it, and the same nodes. -/
theorem exists_edges_insert {readings : List NodeReading} {before after : List (Option Edge)}
    {e : Edge} (hfresh : ∀ r ∈ before ++ after, r.map Edge.id ≠ some e.id)
    (hsource : e.source ∈ (ofReadings readings (before ++ after)).nodes.keys)
    (htarget : e.target ∈ (ofReadings readings (before ++ after)).nodes.keys) :
    (ofReadings readings (before ++ some e :: after)).nodes =
        (ofReadings readings (before ++ after)).nodes ∧
      ∃ earlier later, (ofReadings readings (before ++ after)).edges = earlier ++ later ∧
        (ofReadings readings (before ++ some e :: after)).edges = earlier ++ e :: later := by
  have hnodes : (ofReadings readings (before ++ some e :: after)).nodes =
      (ofReadings readings (before ++ after)).nodes :=
    (nodes_ofReadings _ _).trans (nodes_ofReadings _ _).symm
  obtain ⟨fates, hwithout, hwith⟩ := edgeFates_insert hfresh hsource htarget
  have hold := (balanced_ofReadings readings (before ++ after)).edges
  have hnew := (balanced_ofReadings readings (before ++ some e :: after)).edges
  rw [hwithout, List.filterMap_append] at hold
  rw [hnodes, hwith, List.filterMap_append] at hnew
  exact ⟨hnodes, _, _, hold, hnew⟩

/-- The readings of a canvas with an entry more: those before and after it are the same. -/
theorem exists_readings_insert {nodes : Batch Node} {before after : List (Entry Edge)}
    {x : Entry Edge} {e : Edge} {s : Snapshot}
    (hs : ofBatches nodes (.entries (before ++ after)) = .ok s) (hx : x.readEdge = .ok (some e)) :
    ∃ readings first second, s = ofReadings readings (first ++ second) ∧
      ofBatches nodes (.entries (before ++ x :: after)) =
        .ok (ofReadings readings (first ++ some e :: second)) ∧
      ∀ r ∈ first ++ second, ∃ y ∈ before ++ after, y.readEdge = .ok r := by
  obtain ⟨ns, es, readings, edgeReadings, hnodes, ⟨hes, hread⟩, rfl⟩ := ofBatches_eq_ok_iff.mp hs
  cases hes
  have hbrought : ∀ r ∈ edgeReadings, ∃ y ∈ before ++ after, y.readEdge = .ok r :=
    fun r hr => Result.exists_of_mem_mapM hread hr
  rw [List.mapM_append] at hread
  obtain ⟨first, hfirst, hread⟩ := Result.bind_eq_ok_iff.mp hread
  obtain ⟨second, hsecond, hread⟩ := Result.bind_eq_ok_iff.mp hread
  cases hread
  have hread' : (before ++ x :: after).mapM Entry.readEdge = .ok (first ++ some e :: second) := by
    rw [List.mapM_append, List.mapM_cons, hfirst, hx, hsecond]
    rfl
  exact ⟨readings, first, second, rfl,
    ofBatches_eq_ok_iff.mpr ⟨ns, _, readings, _, hnodes, ⟨rfl, hread'⟩, rfl⟩, hbrought⟩

end Snapshot

/-! ## 2. One edge more -/

section Cycles

variable {edges edges' : List Edge} {e : Edge}

/-- **In a graph with one edge more a cycle goes along that edge**, if there was none before; and then
the edge leads back. -/
theorem Search.IsCycle.through {first : Text} {report : CycleReport}
    (h : Search.IsCycle edges' first report) (hedges : ∀ d ∈ edges', d = e ∨ d ∈ edges)
    (hacyclic : ∀ a, ¬ ReachesCycle edges a) :
    (e.id ∈ report.edges ∧ e.source ∈ report.nodes ∧ e.target ∈ report.nodes) ∧
      Reaches edges e.target e.source := by
  have hids := h.edges_nodup
  obtain ⟨route, hne, hwalk, rfl⟩ := h.exists_walk
  have hkept : ∀ part : List Edge, e ∉ part → (∀ d ∈ part, d ∈ route) → ∀ d ∈ part, d ∈ edges := by
    intro part he hpart d hd
    rcases hedges d (hwalk.mem d (hpart d hd)) with rfl | hold
    · exact absurd hd he
    · exact hold
  have he : e ∈ route := by
    by_contra he
    exact hacyclic first ⟨first, .refl first, route, hne,
      hwalk.of_mem (hkept route he fun _ hd => hd)⟩
  refine ⟨⟨List.mem_map_of_mem he, List.mem_map_of_mem he, hwalk.target_mem_sources he⟩, ?_⟩
  obtain ⟨before, after, rfl⟩ := List.append_of_mem he
  obtain ⟨hbefore, hafter⟩ := hwalk.split
  -- no edge comes twice, so the rest of the cycle avoids the new edge
  have honce : e ∉ after ++ before := by
    have hnodup : (before ++ e :: after).Nodup := List.Nodup.of_map Edge.id hids
    intro hmem
    rw [List.nodup_append] at hnodup
    obtain ⟨-, hcons, hdisjoint⟩ := hnodup
    rcases List.mem_append.mp hmem with hmem | hmem
    · exact (List.nodup_cons.mp hcons).1 hmem
    · exact hdisjoint e hmem e List.mem_cons_self rfl
  have hrest : ∀ d ∈ after ++ before, d ∈ before ++ e :: after := by
    intro d hd
    rcases List.mem_append.mp hd with hd | hd
    · exact List.mem_append_right _ (List.mem_cons_of_mem _ hd)
    · exact List.mem_append_left _ hd
  exact ⟨after ++ before, (hafter.append hbefore).of_mem (hkept _ honce hrest)⟩

/-- An edge that leads back closes a cycle. -/
theorem reachesCycle_of_backEdge (hmem : e ∈ edges') (hedges : ∀ d ∈ edges, d ∈ edges')
    (hback : Reaches edges e.target e.source) : ReachesCycle edges' e.source := by
  obtain ⟨route, hroute⟩ := hback
  exact ⟨e.source, .refl _, e :: route, List.cons_ne_nil _ _, .cons hmem (hroute.mono hedges)⟩

end Cycles

namespace Snapshot

/-! ## 3. The search -/

/-- **With one edge more the search reports a cycle exactly when the edge leads back**, and then one
that goes along the edge. -/
theorem Consistent.detectCycle_insert {s : Snapshot} (hs : s.Consistent) {edges : List Edge}
    {e : Edge} (hedges : ∀ d, d ∈ s.edges ↔ d = e ∨ d ∈ edges)
    (hacyclic : ∀ a, ¬ ReachesCycle edges a) :
    ∃ report, s.detectCycle false = .ok report ∧
      (Reaches edges e.target e.source → report.isAcyclic = false ∧ e.id ∈ report.edges ∧
        e.source ∈ report.nodes ∧ e.target ∈ report.nodes) ∧
      (¬ Reaches edges e.target e.source → report.isAcyclic = true) := by
  have hsearched := hs.searched false
  rw [retained_false] at hsearched
  unfold detectCycle
  generalize s.searchCycle false = verdict at hsearched
  cases hsearched with
  | clear _ hsettles hdone _ =>
    refine ⟨_, rfl, fun hback => ?_, fun _ => rfl⟩
    have he : e ∈ s.edges := (hedges e).mpr (.inl rfl)
    have hcycle := reachesCycle_of_backEdge he (fun d hd => (hedges d).mpr (.inr hd)) hback
    exact absurd hcycle (hsettles.not_reachesCycle (hdone e.source (hs.ends e he).1))
  | @cycle before after root first report _ _ _ hcycle =>
    obtain ⟨⟨hid, hsource, htarget⟩, hback⟩ :=
      hcycle.through (fun d hd => (hedges d).mp hd) hacyclic
    exact ⟨report, rfl, fun _ => ⟨hcycle.isAcyclic_eq, hid, hsource, htarget⟩,
      fun hnot => absurd hback hnot⟩

/-- **A back edge is caught on both its ends.**  Let no cycle be reported on a canvas, and let an edge
with an id of its own between two of the nodes be put in anywhere among the edges.  Where the edge leads
to its own source, or to a node from which that is reached, a cycle is reported that names the edge and
both its ends; and otherwise none is. -/
theorem ofBatches_backEdge {nodes : Batch Node} {before after : List (Entry Edge)} {x : Entry Edge}
    {e : Edge} {s : Snapshot} {old : CycleReport}
    (hs : ofBatches nodes (.entries (before ++ after)) = .ok s)
    (hold : s.detectCycle false = .ok old) (hacyclic : old.isAcyclic = true)
    (hx : x.readEdge = .ok (some e))
    (hfresh : ∀ y ∈ before ++ after, ∀ d, y.readEdge = .ok (some d) → d.id ≠ e.id)
    (hsource : e.source ∈ s.nodes.keys) (htarget : e.target ∈ s.nodes.keys) :
    ∃ s' report, ofBatches nodes (.entries (before ++ x :: after)) = .ok s' ∧
      s'.nodes = s.nodes ∧
      (∃ earlier later, s.edges = earlier ++ later ∧ s'.edges = earlier ++ e :: later) ∧
      s'.detectCycle false = .ok report ∧
      (e.source = e.target ∨ Reaches s.edges e.target e.source →
        report.isAcyclic = false ∧ e.id ∈ report.edges ∧
          e.source ∈ report.nodes ∧ e.target ∈ report.nodes) ∧
      (e.source ≠ e.target → ¬ Reaches s.edges e.target e.source → report.isAcyclic = true) := by
  -- the cycles of the old graph
  obtain ⟨old', hold', hordered⟩ := detectCycle_isAcyclic_iff hs false
  obtain rfl : old = old' := Except.ok.inj (hold.symm.trans hold')
  obtain ⟨order, horder⟩ := hordered.mp hacyclic
  have hnone : ∀ a, ¬ ReachesCycle s.edges a := by
    intro a
    rw [← retained_false s]
    exact horder.not_reachesCycle a
  obtain ⟨readings, first, second, rfl, hs', hbrought⟩ := exists_readings_insert hs hx
  have hfresh' : ∀ r ∈ first ++ second, r.map Edge.id ≠ some e.id := by
    intro r hr hid
    obtain ⟨d, rfl, hd⟩ := Option.map_eq_some_iff.mp hid
    obtain ⟨y, hy, hread⟩ := hbrought _ hr
    exact hfresh y hy d hread hd
  obtain ⟨hsame, earlier, later, hwithout, hwith⟩ := exists_edges_insert hfresh' hsource htarget
  have hmem : ∀ d, d ∈ (ofReadings readings (first ++ some e :: second)).edges ↔
      d = e ∨ d ∈ (ofReadings readings (first ++ second)).edges := by
    intro d
    rw [hwith, hwithout, List.mem_append, List.mem_append, List.mem_cons]
    exact or_left_comm
  obtain ⟨report, hreport, hback, hforth⟩ :=
    (consistent_ofReadings readings (first ++ some e :: second)).detectCycle_insert hmem hnone
  refine ⟨_, report, hs', hsame, ⟨earlier, later, hwithout, hwith⟩, hreport, ?_,
    fun _ hnot => hforth hnot⟩
  rintro (hloop | hreach)
  · refine hback ?_
    rw [hloop]
    exact .refl _
  · exact hback hreach

/-- Three nodes. -/
def chainNodes : Batch Node :=
  .entries [.built ⟨"fetch", "", [], none, none⟩, .built ⟨"check", "", [], none, none⟩,
    .built ⟨"store", "", [], none, none⟩]

/-- The edges from the first of them to the second and from there to the third. -/
def chainEdges : List Edge :=
  [⟨"on", "fetch", "check", none, none⟩, ⟨"further", "check", "store", none, none⟩]

/-- A step from the end of the chain to its beginning. -/
def chainBack : Edge := ⟨"back", "store", "fetch", none, none⟩

/-- The graph of the chain. -/
def chainSnapshot : Snapshot :=
  ofReadings [.node ⟨"fetch", "", [], none, none⟩, .node ⟨"check", "", [], none, none⟩,
      .node ⟨"store", "", [], none, none⟩] (chainEdges.map some)

/-- The step back, put in between the two others, is caught. -/
theorem ofBatches_backEdge_chain :
    ofBatches chainNodes (.entries ((chainEdges.take 1).map .built ++
        (chainEdges.drop 1).map .built)) = .ok chainSnapshot ∧
      chainSnapshot.detectCycle false = .ok {} ∧
      ∃ s report, ofBatches chainNodes (.entries ((chainEdges.take 1).map .built ++
          .built chainBack :: (chainEdges.drop 1).map .built)) = .ok s ∧
        s.detectCycle false = .ok report ∧ report.isAcyclic = false ∧
          chainBack.id ∈ report.edges ∧ chainBack.source ∈ report.nodes ∧
            chainBack.target ∈ report.nodes := by
  have hs : ofBatches chainNodes (.entries ((chainEdges.take 1).map .built ++
      (chainEdges.drop 1).map .built)) = .ok chainSnapshot := rfl
  have hold : chainSnapshot.detectCycle false = .ok {} := by
    cbv
  have hfresh : ∀ y ∈ (chainEdges.take 1).map Entry.built ++ (chainEdges.drop 1).map Entry.built,
      ∀ d, y.readEdge = .ok (some d) → d.id ≠ chainBack.id := by
    intro y hy d hd
    rw [← List.map_append, List.take_append_drop] at hy
    obtain ⟨d', hmem, rfl⟩ := List.mem_map.mp hy
    cases hd
    exact (by decide +kernel : ∀ d ∈ chainEdges, d.id ≠ chainBack.id) d hmem
  have hread : (Entry.built chainBack).readEdge = .ok (some chainBack) := rfl
  obtain ⟨s, report, hs', -, -, hreport, hback, -⟩ := ofBatches_backEdge hs hold rfl hread hfresh
    (by decide +kernel) (by decide +kernel)
  have hreach : Reaches chainSnapshot.edges chainBack.target chainBack.source :=
    ⟨chainEdges, .cons List.mem_cons_self
      (.cons (List.mem_cons_of_mem _ List.mem_cons_self) (.nil _))⟩
  exact ⟨hs, hold, s, report, hs', hreport, hback (.inr hreach)⟩

end Snapshot

end WorkflowGate
