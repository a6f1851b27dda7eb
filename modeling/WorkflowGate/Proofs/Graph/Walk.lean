/-
# Walks

What a search finds out is a matter of walks: edges one after the other, each beginning where the
last one ended.  Walks are said here on a list of edges, and a search goes by an index of the edges
by source; `Indexes` ties the two together, and every index of a snapshot has it.

* `Walk.climbs`: what grows along every edge grows along every walk, by the length of the walk;
* `Settled.not_reachesCycle`: nodes in an order in which every edge leads on reach no cycle;
* `Consistent.indexes_adjacency`, `Consistent.indexes_traversable`: the searches of a snapshot go by
  its edges, and by those of them that are retained.
-/
import Mathlib.Data.List.Nodup
import Mathlib.Data.List.Perm.Basic
import WorkflowGate.Graph.Cycle
import WorkflowGate.Proofs.Graph.Consistent

namespace WorkflowGate

/-! ## 1. Walks along edges -/

/-- A walk: from a node to a node, along edges of which each begins where the one before it ended. -/
inductive Walk (edges : List Edge) : Text → List Edge → Text → Prop
  | nil (a : Text) : Walk edges a [] a
  | cons {e : Edge} {route : List Edge} {b : Text} :
      e ∈ edges → Walk edges e.target route b → Walk edges e.source (e :: route) b

/-- Some walk leads from the one node to the other. -/
def Reaches (edges : List Edge) (a b : Text) : Prop := ∃ route, Walk edges a route b

/-- Some walk leads to a node from which a walk of at least one edge leads back. -/
def ReachesCycle (edges : List Edge) (a : Text) : Prop :=
  ∃ c, Reaches edges a c ∧ ∃ loop, loop ≠ [] ∧ Walk edges c loop c

namespace Walk

variable {edges : List Edge} {a b c : Text} {route after : List Edge}

/-- A walk that begins where another ends goes on with it. -/
theorem append (h : Walk edges a route b) (h' : Walk edges b after c) :
    Walk edges a (route ++ after) c := by
  induction h with
  | nil a => exact h'
  | cons he _ ih => exact .cons he (ih h')

theorem single {e : Edge} (he : e ∈ edges) : Walk edges e.source [e] e.target :=
  .cons he (.nil e.target)

/-- A walk goes along edges of the list. -/
theorem mem (h : Walk edges a route b) : ∀ e ∈ route, e ∈ edges := by
  induction h with
  | nil a => intro e he; cases he
  | cons hd _ ih =>
    intro e he
    rcases List.mem_cons.mp he with rfl | he
    · exact hd
    · exact ih e he

/-- More edges leave a walk one. -/
theorem mono {edges' : List Edge} (hedges : ∀ e ∈ edges, e ∈ edges') (h : Walk edges a route b) :
    Walk edges' a route b := by
  induction h with
  | nil a => exact .nil a
  | cons he _ ih => exact .cons (hedges _ he) ih

/-- A walk is one among all edges that it goes along. -/
theorem of_mem {edges' : List Edge} (h : Walk edges a route b) (hroute : ∀ e ∈ route, e ∈ edges') :
    Walk edges' a route b := by
  induction h with
  | nil a => exact .nil a
  | @cons e rest b _ _ ih =>
    obtain ⟨he, hrest⟩ := List.forall_mem_cons.mp hroute
    exact .cons he (ih hrest)

/-- At each of its edges a walk comes apart into one to the source and one from the target. -/
theorem split {before : List Edge} {e : Edge} (h : Walk edges a (before ++ e :: after) b) :
    Walk edges a before e.source ∧ Walk edges e.target after b := by
  induction before generalizing a with
  | nil =>
    cases h with
    | cons _ hrest => exact ⟨.nil e.source, hrest⟩
  | cons d before ih =>
    cases h with
    | cons hd hrest =>
      obtain ⟨hbefore, hafter⟩ := ih hrest
      exact ⟨.cons hd hbefore, hafter⟩

/-- **What grows along every edge grows along every walk**, by the length of the walk.  It is enough
that it grows where some property holds, if every edge hands the property on. -/
theorem climbs {P : Text → Prop} {f : Text → Nat}
    (hedge : ∀ e ∈ edges, P e.source → P e.target ∧ f e.source < f e.target)
    (h : Walk edges a route b) : P a → P b ∧ f a + route.length ≤ f b := by
  induction h with
  | nil a => exact fun ha => ⟨ha, Nat.le_refl _⟩
  | cons he _ ih =>
    intro ha
    obtain ⟨htarget, hlt⟩ := hedge _ he ha
    obtain ⟨hb, hle⟩ := ih htarget
    refine ⟨hb, ?_⟩
    rw [List.length_cons]
    omega

theorem eq_of_nil (h : Walk edges a [] b) : a = b := by
  cases h
  rfl

/-- The first edge of a walk begins where the walk does. -/
theorem source_eq {e : Edge} (h : Walk edges a (e :: route) b) : e.source = a := by
  cases h
  rfl

/-- A walk back to where it began passes the targets of its edges as sources. -/
theorem target_mem_sources {e : Edge} (h : Walk edges a route a) (he : e ∈ route) :
    e.target ∈ route.map Edge.source := by
  obtain ⟨before, after, rfl⟩ := List.append_of_mem he
  obtain ⟨hbefore, hafter⟩ := h.split
  cases after with
  | nil =>
    rw [hafter.eq_of_nil]
    cases before with
    | nil => exact List.mem_map.mpr ⟨e, List.mem_cons_self, hbefore.eq_of_nil.symm⟩
    | cons d before => exact List.mem_map.mpr ⟨d, List.mem_cons_self, hbefore.source_eq⟩
  | cons d after => exact List.mem_map.mpr ⟨d, by simp, hafter.source_eq⟩

/-- Each edge of a walk ends where the next one begins, and the last where the walk ends. -/
theorem target_getElem (h : Walk edges a route b) (i : Nat) (hi : i < route.length) :
    (route[i]).target = if h' : i + 1 < route.length then (route[i + 1]).source else b := by
  induction h generalizing i with
  | nil a => exact absurd hi (Nat.not_lt_zero i)
  | @cons e rest b he hrest ih =>
    cases i with
    | zero =>
      cases rest with
      | nil => exact hrest.eq_of_nil
      | cons d rest => exact hrest.source_eq.symm
    | succ j =>
      have hj : j < rest.length := Nat.lt_of_succ_lt_succ hi
      rw [List.getElem_cons_succ, ih j hj]
      by_cases hlast : j + 1 < rest.length
      · have hlast' : j + 1 + 1 < (e :: rest).length := Nat.succ_lt_succ hlast
        rw [dif_pos hlast, dif_pos hlast', List.getElem_cons_succ]
      · have hlast' : ¬ j + 1 + 1 < (e :: rest).length := fun h => hlast (Nat.lt_of_succ_lt_succ h)
        rw [dif_neg hlast, dif_neg hlast']

end Walk

namespace Reaches

variable {edges : List Edge} {a b c : Text}

theorem refl (a : Text) : Reaches edges a a := ⟨[], .nil a⟩

theorem trans (h : Reaches edges a b) (h' : Reaches edges b c) : Reaches edges a c := by
  obtain ⟨route, hr⟩ := h
  obtain ⟨after, ha⟩ := h'
  exact ⟨route ++ after, hr.append ha⟩

theorem edge {e : Edge} (he : e ∈ edges) : Reaches edges e.source e.target := ⟨[e], .single he⟩

end Reaches

theorem Reaches.mono {edges edges' : List Edge} (hedges : ∀ e ∈ edges, e ∈ edges') {a b : Text}
    (h : Reaches edges a b) : Reaches edges' a b := by
  obtain ⟨route, hr⟩ := h
  exact ⟨route, hr.mono hedges⟩

/-- More edges leave a cycle one. -/
theorem ReachesCycle.mono {edges edges' : List Edge} (hedges : ∀ e ∈ edges, e ∈ edges') {a : Text}
    (h : ReachesCycle edges a) : ReachesCycle edges' a := by
  obtain ⟨c, hreach, loop, hne, hloop⟩ := h
  exact ⟨c, hreach.mono hedges, loop, hne, hloop.mono hedges⟩

/-- Nothing that grows along every edge leaves room for a cycle. -/
theorem not_reachesCycle_of_climbs {edges : List Edge} {P : Text → Prop} {f : Text → Nat}
    (hedge : ∀ e ∈ edges, P e.source → P e.target ∧ f e.source < f e.target) {a : Text} (ha : P a) :
    ¬ ReachesCycle edges a := by
  rintro ⟨c, ⟨route, hroute⟩, loop, hne, hloop⟩
  have hc := (hroute.climbs hedge ha).1
  have hle := (hloop.climbs hedge hc).2
  have hpos : 0 < loop.length := List.length_pos_iff.mpr hne
  omega

/-! ## 2. Orders in which every edge leads on -/

/-- Nodes, each once, and every edge from one of them leads to one that comes later. -/
inductive Settled (edges : List Edge) : List Text → Prop
  | nil : Settled edges []
  | cons {a : Text} {order : List Text} :
      a ∉ order → (∀ e ∈ edges, e.source = a → e.target ∈ order) → Settled edges order →
        Settled edges (a :: order)

namespace Settled

variable {edges : List Edge} {order : List Text}

theorem nodup (h : Settled edges order) : order.Nodup := by
  induction h with
  | nil => exact List.nodup_nil
  | cons ha _ _ ih => exact List.nodup_cons.mpr ⟨ha, ih⟩

/-- Every edge leads on. -/
theorem idxOf_lt (h : Settled edges order) :
    ∀ e ∈ edges, e.source ∈ order →
      e.target ∈ order ∧ order.idxOf e.source < order.idxOf e.target := by
  induction h with
  | nil => intro e _ hm; cases hm
  | @cons a order ha hlead _ ih =>
    intro e he hm
    have hlater : e.target ∈ order := by
      rcases List.mem_cons.mp hm with hs | hm
      · exact hlead e he hs
      · exact (ih e he hm).1
    refine ⟨List.mem_cons_of_mem a hlater, ?_⟩
    have hne : a ≠ e.target := fun heq => ha (heq ▸ hlater)
    rw [List.idxOf_cons_ne order hne]
    by_cases hs : a = e.source
    · rw [hs, List.idxOf_cons_self]
      exact Nat.succ_pos _
    · have hm' : e.source ∈ order := (List.mem_cons.mp hm).resolve_left fun h => hs h.symm
      rw [List.idxOf_cons_ne order hs]
      exact Nat.succ_lt_succ (ih e he hm').2

/-- **No cycle is reached from a settled node.** -/
theorem not_reachesCycle (h : Settled edges order) {a : Text} (ha : a ∈ order) :
    ¬ ReachesCycle edges a :=
  not_reachesCycle_of_climbs (P := (· ∈ order)) (f := (order.idxOf ·)) h.idxOf_lt ha

end Settled

/-! ## 3. Indexes by source -/

/-- The map lists, for each of its keys, the steps along the edges from there, and every edge runs
between keys. -/
structure Indexes (adjacency : OrderedMap Text (List Step)) (edges : List Edge) : Prop where
  steps_eq : ∀ a ∈ adjacency.keys,
    adjacency.find? a = some ((edges.filter fun e => e.source = a).map Edge.step)
  ends : ∀ e ∈ edges, e.source ∈ adjacency.keys ∧ e.target ∈ adjacency.keys

namespace Indexes

variable {adjacency : OrderedMap Text (List Step)} {edges : List Edge} {a : Text}
  {steps : List Step}

theorem find?_isSome (h : Indexes adjacency edges) (ha : a ∈ adjacency.keys) :
    ∃ steps, adjacency.find? a = some steps := ⟨_, h.steps_eq a ha⟩

/-- A step that is listed goes along an edge. -/
theorem exists_edge (h : Indexes adjacency edges) (hfind : adjacency.find? a = some steps)
    {step : Step} (hstep : step ∈ steps) : ∃ e ∈ edges, e.source = a ∧ e.step = step := by
  have ha : a ∈ adjacency.keys := OrderedMap.mem_keys_of_find? hfind
  rw [h.steps_eq a ha] at hfind
  cases hfind
  obtain ⟨e, he, hs⟩ := List.mem_map.mp hstep
  obtain ⟨hmem, hsource⟩ := List.mem_filter.mp he
  exact ⟨e, hmem, of_decide_eq_true hsource, hs⟩

/-- A listed step leads to a key of the index. -/
theorem target_mem_keys (h : Indexes adjacency edges) (hfind : adjacency.find? a = some steps)
    {step : Step} (hstep : step ∈ steps) : step.target ∈ adjacency.keys := by
  obtain ⟨e, he, -, rfl⟩ := h.exists_edge hfind hstep
  exact (h.ends e he).2

/-- Every edge is listed at its source. -/
theorem step_mem (h : Indexes adjacency edges) {e : Edge} (he : e ∈ edges)
    (hfind : adjacency.find? e.source = some steps) : e.step ∈ steps := by
  rw [h.steps_eq e.source (h.ends e he).1] at hfind
  cases hfind
  exact List.mem_map.mpr ⟨e, List.mem_filter.mpr ⟨he, decide_eq_true rfl⟩, rfl⟩

end Indexes

/-! ## 4. The edges that a search for cycles goes along -/

/-- An edge is retained unless edges for errors are to be left out and its source handle, which is
then named, mentions errors. -/
def Edge.Retained (ignoreErrorHandles : Bool) (e : Edge) : Prop :=
  ignoreErrorHandles = true →
    ∀ handle ∈ e.sourceHandle,
      handle = Text.empty ∨ ¬ errorHandleMark.points <:+: handle.points

namespace Snapshot

/-- The retained edges, in order. -/
def retained (s : Snapshot) (ignoreErrorHandles : Bool) : List Edge :=
  s.edges.filter fun e => !(ignoreErrorHandles && leavesErrorHandle e)

theorem leavesErrorHandle_iff (e : Edge) :
    leavesErrorHandle e = true ↔
      ∃ handle ∈ e.sourceHandle,
        handle ≠ Text.empty ∧ errorHandleMark.points <:+: handle.points := by
  unfold leavesErrorHandle Edge.namedHandle
  cases hhandle : e.sourceHandle with
  | none => simp
  | some handle =>
    by_cases hempty : handle = Text.empty
    · subst hempty
      have hunnamed : Text.empty.isEmpty = true := rfl
      simp [Option.filter_some, hunnamed]
    · have hnamed : handle.isEmpty = false :=
        Bool.eq_false_iff.mpr fun h => hempty ((Text.isEmpty_iff handle).mp h)
      simp [Option.filter_some, hnamed, hempty, Text.contains_iff]

theorem mem_retained_iff (s : Snapshot) (ignore : Bool) (e : Edge) :
    e ∈ s.retained ignore ↔ e ∈ s.edges ∧ e.Retained ignore := by
  rw [retained, List.mem_filter]
  refine and_congr_right fun _ => ?_
  have hleaves := leavesErrorHandle_iff e
  cases ignore with
  | false => simp [Edge.Retained]
  | true =>
    rw [Bool.true_and, Bool.not_eq_true', ← Bool.not_eq_true, hleaves]
    constructor
    · intro hnone _ handle hhandle
      by_cases hempty : handle = Text.empty
      · exact .inl hempty
      · exact .inr fun hmark => hnone ⟨handle, hhandle, hempty, hmark⟩
    · rintro hretained ⟨handle, hhandle, hempty, hmark⟩
      rcases hretained rfl handle hhandle with h | h
      · exact hempty h
      · exact h hmark

theorem retained_false (s : Snapshot) : s.retained false = s.edges :=
  List.filter_eq_self.mpr fun _ _ => rfl

namespace Consistent

variable {s : Snapshot}

theorem indexes_adjacency (h : s.Consistent) : Indexes s.adjacency s.edges where
  steps_eq a ha := h.adjacency_eq a (h.adjacency_keys ▸ ha)
  ends e he := by
    rw [h.adjacency_keys]
    exact h.ends e he

/-- Leaving out entries of the index by edge id leaves out the edges, as no two share an id. -/
theorem contains_errorEdgeIds (h : s.Consistent) {e : Edge} (he : e ∈ s.edges) :
    s.errorEdgeIds.contains e.id = leavesErrorHandle e := by
  rw [Bool.eq_iff_iff, List.contains_iff_mem, errorEdgeIds, List.mem_map]
  constructor
  · rintro ⟨d, hd, hid⟩
    obtain ⟨hmem, hleaves⟩ := List.mem_filter.mp hd
    rw [← List.inj_on_of_nodup_map h.edge_ids_nodup hmem he hid]
    exact hleaves
  · exact fun hleaves => ⟨e, List.mem_filter.mpr ⟨he, hleaves⟩, rfl⟩

theorem traversable_keys (h : s.Consistent) (ignore : Bool) :
    (s.traversable ignore).keys = s.nodes.keys := by
  rw [← h.adjacency_keys]
  cases ignore with
  | false => rfl
  | true => rw [traversable, if_pos rfl, OrderedMap.keys_mapValues]

/-- **A search for cycles goes along the retained edges.** -/
theorem indexes_traversable (h : s.Consistent) (ignore : Bool) :
    Indexes (s.traversable ignore) (s.retained ignore) where
  steps_eq a ha := by
    rw [h.traversable_keys] at ha
    have hall := h.adjacency_eq a ha
    cases ignore with
    | false =>
      rw [retained_false]
      exact hall
    | true =>
      have hfind : (s.traversable true).find? a =
          (s.adjacency.find? a).map fun steps =>
            steps.filter fun step => !s.errorEdgeIds.contains step.edgeId := by
        rw [traversable, if_pos rfl, OrderedMap.find?_mapValues]
      have hkept : ∀ e ∈ s.leaving a,
          (!s.errorEdgeIds.contains e.step.edgeId) = !(true && leavesErrorHandle e) := by
        intro e he
        rw [Bool.true_and]
        exact congrArg (!·) (h.contains_errorEdgeIds (List.mem_filter.mp he).1)
      rw [hfind, hall, Option.map_some, List.filter_map]
      refine congrArg some (congrArg (List.map Edge.step) ?_)
      refine (List.filter_congr hkept).trans ?_
      rw [leaving, retained, List.filter_filter, List.filter_filter]
      exact List.filter_congr fun e _ => Bool.and_comm _ _
  ends e he := by
    rw [h.traversable_keys]
    exact h.ends e ((s.mem_retained_iff ignore e).mp he).1

end Consistent

end Snapshot

end WorkflowGate
