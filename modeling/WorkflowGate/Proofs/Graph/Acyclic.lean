/-
# Cycles are found, and only cycles

A search from one root ends with every node that it visited done, or with a cycle of edges that the
root reaches (`Rested.run`).  Going through all roots, the nodes that are done stay in an order in
which every edge leads on, so a root that is done reaches no cycle (`searched_searchRoots`).

* `detectCycle_isAcyclic_iff`: no cycle is reported exactly when the nodes can be put in an order in
  which every retained edge leads on;
* `detectCycle_cycle`: a cycle that is reported is one, and it is reached from the first node of all
  that reaches a cycle;
* `Consistent.cycleFindings_spec`: so there are findings exactly when there is a cycle.
-/
import Mathlib
import WorkflowGate.Proofs.Graph.DepthFirst

namespace WorkflowGate

/-! ## 1. From one root -/

namespace Colouring

/-- **What holds of the colours between two searches.**  Every node has one, none is in progress, and
an edge from a node that is done leads to one that is done. -/
structure Rested (adjacency : OrderedMap Text (List Step)) (edges : List Edge) (c : Colouring) :
    Prop where
  keys : c.keys = adjacency.keys
  none_inProgress : ∀ x, c.find? x ≠ some .inProgress
  closed : ∀ e ∈ edges, c.find? e.source = some .done → c.find? e.target = some .done

end Colouring

open Colouring

variable {adjacency : OrderedMap Text (List Step)} {edges : List Edge}

/-- How a search from a root can end.  Without a cycle the root is done, and so is what was done
before. -/
inductive SearchedFrom (adjacency : OrderedMap Text (List Step)) (edges : List Edge) (c : Colouring)
    (root : Text) : Verdict → Prop
  | clear {c' : Colouring} :
      Rested adjacency edges c' → c'.find? root = some .done →
        (∀ x, c.find? x = some .done → c'.find? x = some .done) →
          (c.Settles edges → c'.Settles edges) → SearchedFrom adjacency edges c root (.clear c')
  | cycle {first : Text} {report : CycleReport} :
      Reaches edges root first → Search.IsCycle edges first report →
        SearchedFrom adjacency edges c root (.cycle report)

/-- A search begins soundly at a node that has not been visited. -/
theorem Colouring.Rested.sound_start {c : Colouring} {root : Text} {steps : List Step}
    (h : c.Rested adjacency edges) (hroot : c.find? root = some .unvisited)
    (hsteps : adjacency.find? root = some steps) :
    Search.Sound adjacency edges (.start c root steps) := by
  have hkeeps : ∀ x, c.find? x = some .done → (c.paint root .inProgress).find? x = some .done :=
    keeps_paint (.inl fun hdone => by cases hroot.symm.trans hdone)
  refine ⟨(keys_paint _ _ _).trans h.keys, List.nodup_singleton root, ?_, ?_,
    .inr (.root ⟨[], hsteps, fun _ h => by cases h⟩)⟩
  · intro x
    by_cases hx : root = x
    · subst hx
      exact ⟨fun _ => List.mem_singleton_self _,
        fun _ => find?_paint_self (mem_keys_of_find? hroot) _⟩
    · simp only [Search.start, find?_paint_of_ne hx, List.mem_singleton]
      exact ⟨fun hp => absurd hp (h.none_inProgress x), fun he => absurd he.symm hx⟩
  · intro e he hsource
    refine hkeeps _ (h.closed e he ?_)
    have hs : root ≠ e.source := by
      intro hs
      simp only [Search.start, ← hs, find?_paint_self (mem_keys_of_find? hroot)] at hsource
      cases hsource
    rw [← hsource]
    exact (find?_paint_of_ne hs _).symm

/-- A search whose path is given up leaves nothing in progress. -/
theorem Search.Sound.rested {s : Search} (h : s.Sound adjacency edges) (hpath : s.path = []) :
    s.colours.Rested adjacency edges where
  keys := h.keys
  none_inProgress x hx := by
    rw [h.inProgress_iff, hpath] at hx
    cases hx
  closed := h.closed

/-- What is carried from the first turn of a search to the last. -/
structure Onward (edges : List Edge) (c : Colouring) (root : Text) (s : Search) : Prop where
  keeps : ∀ x, c.find? x = some .done → s.colours.find? x = some .done
  visited : s.colours.find? root ≠ some .unvisited
  settles : c.Settles edges → s.colours.Settles edges
  reached : ∀ x ∈ s.path, Reaches edges root x

theorem Onward.start {c : Colouring} {root : Text} (steps : List Step)
    (hroot : c.find? root = some .unvisited) : Onward edges c root (.start c root steps) := by
  have hpainted : (c.paint root .inProgress).find? root = some .inProgress :=
    find?_paint_self (mem_keys_of_find? hroot) _
  constructor
  case keeps => exact keeps_paint (.inl fun hdone => by cases hroot.symm.trans hdone)
  case visited => exact fun hunvisited => by cases hpainted.symm.trans hunvisited
  case settles =>
    rintro ⟨order, hsettled, hmem⟩
    refine ⟨order, hsettled, fun x => (hmem x).trans ?_⟩
    by_cases hx : root = x
    · subst hx
      simp only [Search.start, hroot, hpainted]
      exact ⟨fun h => (by cases h), fun h => (by cases h)⟩
    · simp only [Search.start, find?_paint_of_ne hx]
  case reached =>
    intro x hx
    rw [List.mem_singleton.mp hx]
    exact Reaches.refl root

theorem Onward.goOn {c : Colouring} {root : Text} {s s' : Search} (hindex : Indexes adjacency edges)
    (hs : Search.Sound adjacency edges s) (hmove : Search.Move adjacency edges s (.goOn s'))
    (h : Onward edges c root s) : Onward edges c root s' where
  keeps x hx := hmove.keeps x (h.keeps x hx)
  visited := hmove.visited root h.visited
  settles hc := hs.settles hindex hmove (h.settles hc)
  reached := hmove.reached h.reached

/-- **A search from a root ends with the root done or with a cycle that the root reaches.** -/
theorem Colouring.Rested.run {c : Colouring} {root : Text} {steps : List Step}
    (hindex : Indexes adjacency edges) (hids : (edges.map Edge.id).Nodup)
    (h : c.Rested adjacency edges) (hroot : c.find? root = some .unvisited)
    (hsteps : adjacency.find? root = some steps) :
    SearchedFrom adjacency edges c root ((Search.start c root steps).run adjacency) := by
  obtain ⟨last, hturns, hstop⟩ := Search.exists_turns adjacency (.start c root steps)
  have hstart : Onward edges c root (.start c root steps) := Onward.start steps hroot
  obtain ⟨hsound, honward⟩ := (h.sound_start hroot hsteps).turns hindex
    (fun s s' hs hmove => Onward.goOn hindex hs hmove) hturns hstart
  have hmove := hsound.move hindex
  rw [hstop] at hmove
  generalize (Search.start c root steps).run adjacency = verdict at hmove
  cases hmove with
  | finish hpath =>
    have hrested := hsound.rested hpath
    have hdone : last.colours.find? root = some .done := by
      have hkey : root ∈ last.colours.keys := by
        rw [hsound.keys, ← h.keys]
        exact mem_keys_of_find? hroot
      obtain ⟨colour, hcolour⟩ := exists_find? hkey
      cases colour with
      | unvisited => exact absurd hcolour honward.visited
      | inProgress => exact absurd hcolour (hrested.none_inProgress root)
      | done => exact hcolour
    exact .clear hrested hdone honward.keeps honward.settles
  | close hpath hpending he hon =>
    exact .cycle (honward.reached _ hon) (hsound.isCycle_closedBy hids hpath he hon)

/-! ## 2. From all roots -/

/-- How the searches from some roots can end.  Without a cycle they are all done, and so is what was
done before; with a cycle, it is reached from the first of the roots that reaches one. -/
inductive Searched (edges : List Edge) (c : Colouring) (roots : List Text) : Verdict → Prop
  | clear {c' : Colouring} :
      c'.keys = c.keys → c'.Settles edges → (∀ x ∈ roots, c'.find? x = some .done) →
        (∀ x, c.find? x = some .done → c'.find? x = some .done) → Searched edges c roots (.clear c')
  | cycle {before after : List Text} {root first : Text} {report : CycleReport} :
      roots = before ++ root :: after → (∀ x ∈ before, ¬ ReachesCycle edges x) →
        Reaches edges root first → Search.IsCycle edges first report →
          Searched edges c roots (.cycle report)

/-- A node that is done reaches no cycle. -/
theorem Colouring.Settles.not_reachesCycle {c : Colouring} (h : c.Settles edges) {x : Text}
    (hx : c.find? x = some .done) : ¬ ReachesCycle edges x := by
  obtain ⟨order, hsettled, hmem⟩ := h
  exact hsettled.not_reachesCycle ((hmem x).mpr hx)

/-- One more root in front, which is done before the others are searched from. -/
theorem Searched.cons {c c' : Colouring} {root : Text} {rest : List Text} {verdict : Verdict}
    (hkeys : c'.keys = c.keys) (hsettles : c'.Settles edges) (hroot : c'.find? root = some .done)
    (hkeeps : ∀ x, c.find? x = some .done → c'.find? x = some .done)
    (h : Searched edges c' rest verdict) : Searched edges c (root :: rest) verdict := by
  cases h with
  | clear hkeys' hsettles' hdone hmore =>
    refine .clear (hkeys'.trans hkeys) hsettles' (fun x hx => ?_) fun x hx => hmore x (hkeeps x hx)
    rcases List.mem_cons.mp hx with rfl | hx
    · exact hmore x hroot
    · exact hdone x hx
  | @cycle before after next first report hroots hbefore hreach hcycle =>
    have hsplit : root :: rest = (root :: before) ++ next :: after := by
      rw [hroots]
      rfl
    refine .cycle hsplit (fun x hx => ?_) hreach hcycle
    rcases List.mem_cons.mp hx with rfl | hx
    · exact hsettles.not_reachesCycle hroot
    · exact hbefore x hx

/-- **The searches from all roots end without a cycle, or with one that the first root reaches that
reaches any.** -/
theorem searched_searchRoots (hindex : Indexes adjacency edges) (hids : (edges.map Edge.id).Nodup)
    {c : Colouring} {roots : List Text} (hroots : ∀ x ∈ roots, x ∈ adjacency.keys)
    (h : c.Rested adjacency edges) (hsettles : c.Settles edges) :
    Searched edges c roots (searchRoots adjacency c roots) := by
  induction roots generalizing c with
  | nil => exact .clear rfl hsettles (fun x hx => by cases hx) fun x hx => hx
  | cons root rest ih =>
    have hroot : root ∈ adjacency.keys := hroots root List.mem_cons_self
    have hrest : ∀ x ∈ rest, x ∈ adjacency.keys := fun x hx => hroots x (List.mem_cons_of_mem _ hx)
    obtain ⟨colour, hcolour⟩ := exists_find? (h.keys.symm ▸ hroot : root ∈ c.keys)
    cases colour with
    | inProgress => exact absurd hcolour (h.none_inProgress root)
    | done =>
      rw [searchRoots, hcolour]
      exact (ih hrest h hsettles).cons rfl hsettles hcolour fun x hx => hx
    | unvisited =>
      obtain ⟨steps, hsteps⟩ := hindex.find?_isSome hroot
      have hrun := h.run hindex hids hcolour hsteps
      rw [searchRoots, hcolour]
      simp only [hsteps]
      generalize (Search.start c root steps).run adjacency = verdict at hrun
      cases hrun with
      | clear hrested hdone hkeeps hsettles' =>
        have hkeys := hrested.keys.trans h.keys.symm
        exact (ih hrest hrested (hsettles' hsettles)).cons hkeys (hsettles' hsettles) hdone hkeeps
      | cycle hreach hcycle =>
        exact .cycle (List.nil_append _).symm (fun x hx => by cases hx) hreach hcycle

/-! ## 3. Snapshots -/

namespace Snapshot

theorem find?_start {s : Snapshot} {x : Text} (h : x ∈ s.nodes.keys) :
    (Colouring.start s).find? x = some .unvisited := by
  obtain ⟨n, hn⟩ := Option.isSome_iff_exists.mp ((OrderedMap.contains_iff s.nodes x).mpr h)
  rw [Colouring.start, OrderedMap.find?_mapValues, hn, Option.map_some]

theorem keys_start (s : Snapshot) : (Colouring.start s).keys = s.nodes.keys :=
  OrderedMap.keys_mapValues s.nodes _

/-- At first no node has been visited. -/
theorem find?_start_ne {s : Snapshot} {x : Text} {colour : Colour} (h : colour ≠ .unvisited) :
    (Colouring.start s).find? x ≠ some colour := by
  intro hx
  have hkey : x ∈ s.nodes.keys := keys_start s ▸ mem_keys_of_find? hx
  exact h (Option.some.inj (hx.symm.trans (find?_start hkey)))

/-- So the search may begin. -/
theorem Consistent.rested_start {s : Snapshot} (h : s.Consistent) (ignore : Bool) :
    (Colouring.start s).Rested (s.traversable ignore) (s.retained ignore) where
  keys := (keys_start s).trans (h.traversable_keys ignore).symm
  none_inProgress _ := find?_start_ne (by decide)
  closed _ _ hdone := absurd hdone (find?_start_ne (by decide))

/-- **The search of a snapshot ends without a cycle, or with one that the first node reaches that
reaches any.** -/
theorem Consistent.searched {s : Snapshot} (h : s.Consistent) (ignore : Bool) :
    Searched (s.retained ignore) (Colouring.start s) s.nodes.keys (s.searchCycle ignore) := by
  have hids : ((s.retained ignore).map Edge.id).Nodup :=
    (List.filter_sublist.map Edge.id).nodup h.edge_ids_nodup
  have hkeys := h.traversable_keys ignore
  refine searched_searchRoots (h.indexes_traversable ignore) hids (fun x hx => hkeys.symm ▸ hx)
    (h.rested_start ignore) ?_
  refine ⟨[], .nil, fun x => ⟨fun hx => absurd hx List.not_mem_nil, fun hdone => ?_⟩⟩
  exact absurd hdone (find?_start_ne (by decide))

/-- A cycle is looked for without a fault. -/
theorem Consistent.exists_detectCycle {s : Snapshot} (h : s.Consistent) (ignore : Bool) :
    ∃ report, s.detectCycle ignore = .ok report := by
  have hsearched := h.searched ignore
  unfold detectCycle
  generalize s.searchCycle ignore = verdict at hsearched
  cases hsearched with
  | clear _ _ _ _ => exact ⟨_, rfl⟩
  | cycle _ _ _ _ => exact ⟨_, rfl⟩

/-- Of a list that can be split before a node with some property and after nodes without it, there is
one such split. -/
theorem eq_of_first {P : Text → Prop} {before before' after after' : List Text} {r r' : Text}
    (h : before ++ r :: after = before' ++ r' :: after') (hr : P r) (hr' : P r')
    (hbefore : ∀ x ∈ before, ¬ P x) (hbefore' : ∀ x ∈ before', ¬ P x) : r = r' := by
  induction before generalizing before' with
  | nil =>
    cases before' with
    | nil => exact (List.cons.inj h).1
    | cons b rest =>
      have hrb : r = b := (List.cons.inj h).1
      exact absurd (hrb ▸ hr) (hbefore' b List.mem_cons_self)
  | cons a rest ih =>
    cases before' with
    | nil =>
      have har : a = r' := (List.cons.inj h).1
      exact absurd (har ▸ hr') (hbefore a List.mem_cons_self)
    | cons b rest' =>
      exact ih (List.cons.inj h).2 (fun x hx => hbefore x (List.mem_cons_of_mem _ hx))
        fun x hx => hbefore' x (List.mem_cons_of_mem _ hx)

/-! ## 4. What a report says -/

/-- The list holds every node once, and the source of every retained edge stands before its
target. -/
def IsTopologicalOrder (s : Snapshot) (ignoreErrorHandles : Bool) (order : List Text) : Prop :=
  order.Perm s.nodes.keys ∧
    ∀ e ∈ s.edges, e.Retained ignoreErrorHandles →
      order.idxOf e.source < order.idxOf e.target

/-- In a topological order no cycle is reached. -/
theorem IsTopologicalOrder.not_reachesCycle {s : Snapshot} {ignore : Bool} {order : List Text}
    (h : s.IsTopologicalOrder ignore order) (a : Text) : ¬ ReachesCycle (s.retained ignore) a := by
  refine not_reachesCycle_of_climbs (P := fun _ => True) (f := (order.idxOf ·)) ?_ trivial
  intro e he _
  obtain ⟨hmem, hretained⟩ := (s.mem_retained_iff ignore e).mp he
  exact ⟨trivial, h.2 e hmem hretained⟩

/-- The nodes of a settled colouring in which all are done, in order. -/
theorem Consistent.exists_topologicalOrder {s : Snapshot} (h : s.Consistent) {ignore : Bool}
    {c : Colouring} (hsettles : c.Settles (s.retained ignore)) (hkeys : c.keys = s.nodes.keys)
    (hdone : ∀ x ∈ s.nodes.keys, c.find? x = some .done) :
    ∃ order, s.IsTopologicalOrder ignore order := by
  obtain ⟨order, hsettled, hmem⟩ := hsettles
  have hsame : ∀ x, x ∈ order ↔ x ∈ s.nodes.keys := by
    intro x
    rw [hmem]
    exact ⟨fun hx => hkeys ▸ mem_keys_of_find? hx, hdone x⟩
  refine ⟨order, (List.perm_ext_iff_of_nodup hsettled.nodup s.nodes.nodup_keys).mpr hsame, ?_⟩
  intro e he hretained
  have hsource : e.source ∈ order := (hsame _).mpr (h.ends e he).1
  exact (hsettled.idxOf_lt e ((s.mem_retained_iff ignore e).mpr ⟨he, hretained⟩) hsource).2

/-- **No cycle is reported exactly when there is a topological order.**  The nodes that are done are in
such an order at the end of a search that found no cycle; and where there is such an order no node
lies on a cycle. -/
theorem detectCycle_isAcyclic_iff {nodes : Batch Node} {edges : Batch Edge} {s : Snapshot}
    (h : ofBatches nodes edges = .ok s) (ignore : Bool) :
    ∃ report, s.detectCycle ignore = .ok report ∧
      (report.isAcyclic = true ↔ ∃ order, s.IsTopologicalOrder ignore order) := by
  have hconsistent := consistent_of_ofBatches h
  have hsearched := hconsistent.searched ignore
  unfold detectCycle
  generalize s.searchCycle ignore = verdict at hsearched
  cases hsearched with
  | clear hkeys hsettles hdone _ =>
    refine ⟨_, rfl, fun _ => ?_, fun _ => rfl⟩
    exact hconsistent.exists_topologicalOrder hsettles (hkeys.trans (keys_start s)) hdone
  | @cycle before after root first report _ _ hreach hcycle =>
    refine ⟨report, rfl, fun hacyclic => ?_, fun hordered => ?_⟩
    · rw [hcycle.isAcyclic_eq] at hacyclic
      cases hacyclic
    · obtain ⟨order, horder⟩ := hordered
      exact absurd ⟨first, hreach, hcycle.exists_loop⟩ (horder.not_reachesCycle root)

/-- Two nodes, an edge from the first to the second, and one back from a handle for errors. -/
def retryCanvas : Batch Node × Batch Edge :=
  (.entries [.built ⟨"fetch", "", [], none, none⟩, .built ⟨"store", "", [], none, none⟩],
    .entries [.built ⟨"on", "fetch", "store", none, none⟩,
      .built ⟨"back", "store", "fetch", some "on_error", none⟩])

/-- The graph of that canvas. -/
def retrySnapshot : Snapshot :=
  ofReadings [.node ⟨"fetch", "", [], none, none⟩, .node ⟨"store", "", [], none, none⟩]
    [some ⟨"on", "fetch", "store", none, none⟩, some ⟨"back", "store", "fetch", some "on_error", none⟩]

/-- The two nodes are in order when the step back is left out. -/
theorem detectCycle_isAcyclic_iff_retry :
    ofBatches retryCanvas.1 retryCanvas.2 = .ok retrySnapshot ∧
      ∃ report, retrySnapshot.detectCycle true = .ok report ∧
        (report.isAcyclic = true ↔ ∃ order, retrySnapshot.IsTopologicalOrder true order) := by
  have hsnapshot : ofBatches retryCanvas.1 retryCanvas.2 = .ok retrySnapshot := rfl
  exact ⟨hsnapshot, detectCycle_isAcyclic_iff hsnapshot true⟩

/-- **A cycle that is reported is one, and the first one in the order of the nodes.**  The edges of the
report lead from each of its nodes to the next and from the last to the first; and of all nodes that
reach a cycle the first reaches the one reported. -/
theorem detectCycle_cycle {nodes : Batch Node} {edges : Batch Edge} {s : Snapshot}
    (h : ofBatches nodes edges = .ok s) {ignore : Bool} {report : CycleReport}
    (hreport : s.detectCycle ignore = .ok report) (hcyclic : report.isAcyclic = false) :
    1 ≤ report.nodes.length ∧ report.edges.length = report.nodes.length ∧
    report.nodes.Nodup ∧ report.edges.Nodup ∧
    (∀ i < report.nodes.length, ∃ e ∈ s.edges, e.Retained ignore ∧
      report.nodes[i]? = some e.source ∧ report.edges[i]? = some e.id ∧
        report.nodes[(i + 1) % report.nodes.length]? = some e.target) ∧
    ∀ before r after, s.nodes.keys = before ++ r :: after →
      ReachesCycle (s.retained ignore) r →
        (∀ x ∈ before, ¬ ReachesCycle (s.retained ignore) x) →
          ∃ first, report.nodes[0]? = some first ∧ Reaches (s.retained ignore) r first := by
  have hsearched := (consistent_of_ofBatches h).searched ignore
  unfold detectCycle at hreport
  generalize s.searchCycle ignore = verdict at hsearched hreport
  cases hsearched with
  | clear _ _ _ _ =>
    cases hreport
    cases hcyclic
  | @cycle before' after' root first _ hroots hbefore' hreach hcycle =>
    cases hreport
    refine ⟨hcycle.lengths.1, hcycle.lengths.2, hcycle.nodes_nodup, hcycle.edges_nodup, ?_, ?_⟩
    · intro i hi
      obtain ⟨e, he, hplaces⟩ := hcycle.exists_edge hi
      obtain ⟨hmem, hretained⟩ := (s.mem_retained_iff ignore e).mp he
      exact ⟨e, hmem, hretained, hplaces⟩
    · intro before r after hkeys hr hbefore
      have hroot : ReachesCycle (s.retained ignore) root := ⟨first, hreach, hcycle.exists_loop⟩
      have hsame : r = root := eq_of_first (hkeys.symm.trans hroots) hr hroot hbefore hbefore'
      exact ⟨first, hcycle.head_eq, hsame ▸ hreach⟩

/-- With the step back the two nodes make a cycle. -/
theorem detectCycle_cycle_retry :
    ofBatches retryCanvas.1 retryCanvas.2 = .ok retrySnapshot ∧
      retrySnapshot.detectCycle false = .ok ⟨false, ["fetch", "store"], ["on", "back"]⟩ ∧
      ∃ e ∈ retrySnapshot.edges, e.source = "store" ∧ e.target = "fetch" := by
  have hsnapshot : ofBatches retryCanvas.1 retryCanvas.2 = .ok retrySnapshot := rfl
  have hreport : retrySnapshot.detectCycle false =
      .ok ⟨false, ["fetch", "store"], ["on", "back"]⟩ := by
    cbv
  obtain ⟨-, -, -, -, hedges, -⟩ := detectCycle_cycle hsnapshot hreport rfl
  obtain ⟨e, he, -, hsource, -, htarget⟩ := hedges 1 (by decide)
  exact ⟨hsnapshot, hreport, e, he, (Option.some.inj hsource).symm, (Option.some.inj htarget).symm⟩

/-! ## 5. Findings -/

/-- Some node reaches a cycle of retained edges. -/
def Cyclic (s : Snapshot) (ignoreErrorHandles : Bool) : Prop :=
  ∃ a ∈ s.nodes.keys, ReachesCycle (s.retained ignoreErrorHandles) a

/-- What leaves edges out leaves no cycle that was not there. -/
theorem Cyclic.of_ignoring {s : Snapshot} {ignore : Bool} (h : s.Cyclic true) : s.Cyclic ignore := by
  obtain ⟨a, ha, hcycle⟩ := h
  refine ⟨a, ha, hcycle.mono fun e he => ?_⟩
  obtain ⟨hmem, hretained⟩ := (s.mem_retained_iff true e).mp he
  refine (s.mem_retained_iff ignore e).mpr ⟨hmem, ?_⟩
  cases ignore with
  | true => exact hretained
  | false =>
    intro hfalse
    cases hfalse

/-- **Something is found on cycles exactly when there is one**, and then an error comes first and a
warning for each node of the reported cycle behind it. -/
theorem Consistent.cycleFindings_spec {s : Snapshot} (h : s.Consistent) {ignore : Bool}
    {report : CycleReport} (hreport : s.detectCycle ignore = .ok report) :
    (¬ s.Cyclic ignore ∧ s.cycleFindings report = []) ∨
      s.Cyclic ignore ∧ ∃ message first rest, s.cycleFindings report =
        .error .cycleDetected message (some first) :: (first :: rest).map s.cycleMember := by
  have hsearched := h.searched ignore
  unfold detectCycle at hreport
  generalize s.searchCycle ignore = verdict at hsearched hreport
  cases hsearched with
  | clear _ hsettles hdone _ =>
    cases hreport
    refine .inl ⟨?_, rfl⟩
    rintro ⟨a, ha, hcycle⟩
    exact hsettles.not_reachesCycle (hdone a ha) hcycle
  | @cycle before after root first _ hroots _ hreach hcycle =>
    cases hreport
    have hroot : root ∈ s.nodes.keys := by
      rw [hroots]
      exact List.mem_append_right _ List.mem_cons_self
    refine .inr ⟨⟨root, hroot, first, hreach, hcycle.exists_loop⟩, ?_⟩
    have hacyclic := hcycle.isAcyclic_eq
    cases hnodes : report.nodes with
    | nil =>
      have hlength := hcycle.lengths.1
      rw [hnodes] at hlength
      exact absurd hlength (by decide)
    | cons head rest =>
      simp only [cycleFindings, hacyclic, hnodes, Bool.false_eq_true, if_false]
      exact ⟨_, head, rest, rfl⟩

/-- **Something of what the error on a cycle is like is found exactly when there is a cycle.** -/
theorem Consistent.exists_mem_cycleFindings_iff {s : Snapshot} (h : s.Consistent) {ignore : Bool}
    {report : CycleReport} (hreport : s.detectCycle ignore = .ok report) {p : Finding → Prop}
    (hp : ∀ message first, p (.error .cycleDetected message first)) :
    (∃ f ∈ s.cycleFindings report, p f) ↔ s.Cyclic ignore := by
  obtain ⟨hacyclic, hnone⟩ | ⟨hcyclic, message, first, rest, hsome⟩ := h.cycleFindings_spec hreport
  · refine iff_of_false ?_ hacyclic
    rintro ⟨f, hf, -⟩
    rw [hnone] at hf
    cases hf
  · refine iff_of_true ?_ hcyclic
    rw [hsome]
    exact ⟨_, List.mem_cons_self, hp message (some first)⟩

end Snapshot

end WorkflowGate
