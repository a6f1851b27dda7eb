/-
# The search for cycles, turn by turn

The search keeps its path, the edges it took and the steps it has left on three stacks, and what it
knows of every node in the colouring.  `Search.Sound` says how these belong together; each turn that
goes on keeps it (`Sound.goOn`), and it rules out every turn that would stop the search without a
verdict (`Sound.move`).  What a turn does besides is said once for each kind of turn and carried over
all turns of a run by `Sound.turns`.

* `Sound.move`: what a turn can be;
* `Sound.goOn`: a turn keeps the stacks and the colours together;
* `Sound.settles`: the nodes that are done stay in an order in which every edge leads on;
* `Sound.isCycle_closedBy`: what a closing step reports is a cycle of edges of the graph.
-/
import Mathlib.Logic.Relation
import WorkflowGate.Proofs.Graph.Walk

namespace WorkflowGate

namespace Colouring

theorem mem_keys_of_find? {c : Colouring} {x : Text} {colour : Colour}
    (h : c.find? x = some colour) : x ∈ c.keys :=
  OrderedMap.mem_keys_of_find? h

theorem exists_find? {c : Colouring} {x : Text} (h : x ∈ c.keys) : ∃ colour, c.find? x = some colour :=
  Option.isSome_iff_exists.mp ((OrderedMap.contains_iff c x).mpr h)

/-- A node has the colour in which it is painted. -/
theorem find?_paint_self {c : Colouring} {x : Text} (h : x ∈ c.keys) (colour : Colour) :
    (c.paint x colour).find? x = some colour := by
  obtain ⟨old, hold⟩ := exists_find? h
  rw [find?_paint, if_pos rfl, hold]
  rfl

theorem find?_paint_of_ne {c : Colouring} {x y : Text} (h : x ≠ y) (colour : Colour) :
    (c.paint x colour).find? y = c.find? y := by
  rw [find?_paint, if_neg h]

/-- Painting a node leaves done what is done, if it does not paint over it. -/
theorem keeps_paint {c : Colouring} {x : Text} {colour : Colour}
    (h : c.find? x ≠ some .done ∨ colour = .done) :
    ∀ y, c.find? y = some .done → (c.paint x colour).find? y = some .done := by
  intro y hy
  by_cases he : x = y
  · subst he
    rw [find?_paint_self (mem_keys_of_find? hy), h.resolve_left (· hy)]
  · rw [find?_paint_of_ne he]
    exact hy

/-- Painting a node in any colour but `unvisited` leaves no other unvisited that was not. -/
theorem unvisited_of_paint {c : Colouring} {id x : Text} {colour : Colour} (h : colour ≠ .unvisited)
    (hx : (c.paint id colour).find? x = some .unvisited) : c.find? x = some .unvisited := by
  rw [find?_paint] at hx
  split at hx
  · cases hc : c.find? x with
    | none => rw [hc] at hx; cases hx
    | some old =>
      rw [hc] at hx
      exact absurd (Option.some.inj hx) h
  · exact hx

/-- The nodes that are done are in an order in which every edge leads on. -/
def Settles (edges : List Edge) (c : Colouring) : Prop :=
  ∃ order, Settled edges order ∧ ∀ x, x ∈ order ↔ c.find? x = some .done

end Colouring

namespace Search

variable {adjacency : OrderedMap Text (List Step)} {edges : List Edge}

/-! ## 1. The path and what is left to try -/

/-- Of the steps of a node some have been tried, and the rest is left.  Those tried lead to nodes
that are done, or to the node `next` that was entered from here. -/
def Tried (adjacency : OrderedMap Text (List Step)) (colours : Colouring) (a : Text)
    (left : List Step) (next : Option Text) : Prop :=
  ∃ tried, adjacency.find? a = some (tried ++ left) ∧
    ∀ step ∈ tried, colours.find? step.target = some .done ∨ next = some step.target

/-- The three stacks, innermost entry first: each node of the path but the last was entered by the
edge that was taken, from the node below it.  `next` is a node that has been entered from the
innermost one and is not on the stacks. -/
inductive Trail (adjacency : OrderedMap Text (List Step)) (edges : List Edge) (colours : Colouring) :
    Option Text → List Text → List Text → List (List Step) → Prop
  | root {next : Option Text} {a : Text} {left : List Step} :
      Tried adjacency colours a left next → Trail adjacency edges colours next [a] [] [left]
  | onward {next : Option Text} {e : Edge} {left : List Step} {path taken : List Text}
      {pending : List (List Step)} :
      e ∈ edges → Tried adjacency colours e.target left next →
        Trail adjacency edges colours (some e.target) (e.source :: path) taken pending →
          Trail adjacency edges colours next (e.target :: e.source :: path) (e.id :: taken)
            (left :: pending)

/-- Nothing that was done stops being done. -/
theorem Tried.mono {colours colours' : Colouring} {a : Text} {left : List Step} {next : Option Text}
    (hkeeps : ∀ x, colours.find? x = some .done → colours'.find? x = some .done)
    (h : Tried adjacency colours a left next) : Tried adjacency colours' a left next := by
  obtain ⟨tried, hfind, htried⟩ := h
  exact ⟨tried, hfind, fun step hstep => (htried step hstep).imp_left (hkeeps _)⟩

/-- The node entered from here is done. -/
theorem Tried.returned {colours colours' : Colouring} {a b : Text} {left : List Step}
    (hkeeps : ∀ x, colours.find? x = some .done → colours'.find? x = some .done)
    (hb : colours'.find? b = some .done) (h : Tried adjacency colours a left (some b)) :
    Tried adjacency colours' a left none := by
  obtain ⟨tried, hfind, htried⟩ := h
  refine ⟨tried, hfind, fun step hstep => .inl ?_⟩
  rcases htried step hstep with hdone | hnext
  · exact hkeeps _ hdone
  · rw [← Option.some.inj hnext]
    exact hb

/-- One more step is tried. -/
theorem Tried.step {colours : Colouring} {a : Text} {step : Step} {left : List Step}
    {next : Option Text} (h : Tried adjacency colours a (step :: left) none)
    (hstep : colours.find? step.target = some .done ∨ next = some step.target) :
    Tried adjacency colours a left next := by
  obtain ⟨tried, hfind, htried⟩ := h
  refine ⟨tried ++ [step], by rw [hfind, List.append_assoc, List.singleton_append], ?_⟩
  intro other hother
  rcases List.mem_append.mp hother with hother | hother
  · exact .inl ((htried other hother).resolve_right fun h => by cases h)
  · rw [List.mem_singleton.mp hother]
    exact hstep

namespace Trail

variable {colours colours' : Colouring} {next : Option Text} {a : Text} {path taken : List Text}
  {left : List Step} {pending : List (List Step)}

theorem mono (hkeeps : ∀ x, colours.find? x = some .done → colours'.find? x = some .done)
    (h : Trail adjacency edges colours next path taken pending) :
    Trail adjacency edges colours' next path taken pending := by
  induction h with
  | root htried => exact .root (htried.mono hkeeps)
  | onward he htried _ ih => exact .onward he (htried.mono hkeeps) ih

/-- The steps of the innermost node. -/
theorem tried (h : Trail adjacency edges colours next (a :: path) taken (left :: pending)) :
    Tried adjacency colours a left next := by
  cases h with
  | root htried => exact htried
  | onward _ htried _ => exact htried

/-- What is known of the innermost node may be replaced. -/
theorem replace {left' : List Step} {next' : Option Text}
    (h : Trail adjacency edges colours next (a :: path) taken (left :: pending))
    (htried : Tried adjacency colours a left' next') :
    Trail adjacency edges colours next' (a :: path) taken (left' :: pending) := by
  cases h with
  | root _ => exact .root htried
  | onward he _ hbelow => exact .onward he htried hbelow

/-- The node entered from the innermost one is done. -/
theorem returned {b : Text} (h : Trail adjacency edges colours (some b) path taken pending)
    (hkeeps : ∀ x, colours.find? x = some .done → colours'.find? x = some .done)
    (hb : colours'.find? b = some .done) :
    Trail adjacency edges colours' none path taken pending := by
  cases h with
  | root htried => exact .root (htried.returned hkeeps hb)
  | onward he htried hbelow => exact .onward he (htried.returned hkeeps hb) (hbelow.mono hkeeps)

/-- The innermost node is given up, once it is done: nothing is left, or the trail below. -/
theorem give_up (h : Trail adjacency edges colours next (a :: path) taken (left :: pending))
    (hkeeps : ∀ x, colours.find? x = some .done → colours'.find? x = some .done)
    (ha : colours'.find? a = some .done) :
    (path = [] ∧ taken.drop 1 = [] ∧ pending = []) ∨
      Trail adjacency edges colours' none path (taken.drop 1) pending := by
  cases h with
  | root _ => exact .inl ⟨rfl, rfl, rfl⟩
  | onward _ _ hbelow => exact .inr (hbelow.returned hkeeps ha)

/-- As many stacks of steps as nodes, and an edge between any two nodes. -/
theorem lengths (h : Trail adjacency edges colours next path taken pending) :
    pending.length = path.length ∧ taken.length + 1 = path.length := by
  induction h with
  | root _ => exact ⟨rfl, rfl⟩
  | onward _ _ _ ih =>
    obtain ⟨hpending, htaken⟩ := ih
    simp only [List.length_cons] at *
    omega

theorem path_ne_nil (h : Trail adjacency edges colours next path taken pending) : path ≠ [] := by
  cases h <;> exact List.cons_ne_nil _ _

/-- **The path is a walk.**  From any of its nodes to the innermost one leads a walk along the edges
taken. -/
theorem walk {inner outer : List Text} {c : Text}
    (h : Trail adjacency edges colours next (inner ++ c :: outer) taken pending) :
    ∃ a route, (inner ++ [c]).head? = some a ∧ Walk edges c route a ∧
      (inner ++ [c]).reverse = route.map Edge.source ++ [a] ∧
      taken = (route.map Edge.id).reverse ++ taken.drop inner.length := by
  induction inner generalizing next taken pending with
  | nil => exact ⟨c, [], rfl, .nil c, rfl, rfl⟩
  | cons b inner ih =>
    -- the node below `b` on the path is the one from which `b` was entered
    rw [List.cons_append] at h
    generalize hrest : inner ++ c :: outer = below at h
    cases h with
    | root _ => exact absurd hrest (List.append_ne_nil_of_right_ne_nil _ (List.cons_ne_nil _ _))
    | @onward _ e _ path taken _ he _ hbelow =>
      rw [← hrest] at hbelow
      obtain ⟨a, route, hhead, hwalk, hnodes, htaken⟩ := ih hbelow
      have ha : a = e.source := by
        have hboth : (inner ++ c :: outer).head? = some e.source := by
          rw [hrest]
          rfl
        have hsame : (inner ++ c :: outer).head? = (inner ++ [c]).head? := by
          cases inner <;> rfl
        rw [hsame, hhead] at hboth
        exact Option.some.inj hboth
      subst ha
      refine ⟨e.target, route ++ [e], rfl, hwalk.append (.single he), ?_, ?_⟩
      · rw [List.cons_append, List.reverse_cons, hnodes, List.map_append]
        rfl
      · rw [List.map_append, List.reverse_append, List.length_cons]
        exact congrArg (e.id :: ·) htaken

end Trail

/-! ## 2. The stacks and the colours belong together -/

/-- **What holds of a search before every turn.**  Every node has a colour, exactly the nodes on the
path are in progress, an edge from a node that is done leads to one that is done, and the stacks are
all empty or make a trail. -/
structure Sound (adjacency : OrderedMap Text (List Step)) (edges : List Edge) (s : Search) : Prop where
  keys : s.colours.keys = adjacency.keys
  nodup : s.path.Nodup
  inProgress_iff : ∀ x, s.colours.find? x = some .inProgress ↔ x ∈ s.path
  closed : ∀ e ∈ edges, s.colours.find? e.source = some .done → s.colours.find? e.target = some .done
  trail : (s.path = [] ∧ s.taken = [] ∧ s.pending = []) ∨
    Trail adjacency edges s.colours none s.path s.taken s.pending

/-- What a turn of a search can be. -/
inductive Move (adjacency : OrderedMap Text (List Step)) (edges : List Edge) (s : Search) : Turn → Prop
  | finish : s.path = [] → Move adjacency edges s (.stop (.clear s.colours))
  | leave {a : Text} {path : List Text} {rest : List (List Step)} :
      s.path = a :: path → s.pending = [] :: rest → Move adjacency edges s (.goOn (s.leave rest))
  | close {e : Edge} {path : List Text} {left : List Step} {rest : List (List Step)} :
      s.path = e.source :: path → s.pending = (e.step :: left) :: rest → e ∈ edges →
        e.target ∈ s.path → Move adjacency edges s (.stop (.cycle (s.closedBy e.step)))
  | skip {a : Text} {path : List Text} {step : Step} {left : List Step} {rest : List (List Step)} :
      s.path = a :: path → s.pending = (step :: left) :: rest →
        s.colours.find? step.target = some .done →
          Move adjacency edges s (.goOn { s with pending := left :: rest })
  | enter {e : Edge} {path : List Text} {left next : List Step} {rest : List (List Step)} :
      s.path = e.source :: path → s.pending = (e.step :: left) :: rest → e ∈ edges →
        s.colours.find? e.target = some .unvisited → adjacency.find? e.target = some next →
          Move adjacency edges s (.goOn (s.enter e.step next (left :: rest)))

/-- **No turn stops a search without a verdict**: a step that is left goes along an edge, so the node
it leads to has a colour and steps of its own, and if it is in progress it is on the path. -/
theorem Sound.move {s : Search} (hindex : Indexes adjacency edges) (h : Sound adjacency edges s) :
    Move adjacency edges s (s.turn adjacency) := by
  rcases h.trail with ⟨hpath, -, hpending⟩ | htrail
  · rw [turn, hpending]
    exact .finish hpath
  · obtain ⟨a, path, hpath⟩ := List.exists_cons_of_ne_nil htrail.path_ne_nil
    have hlengths := htrail.lengths.1
    rw [hpath, List.length_cons] at hlengths
    obtain ⟨left, rest, hpending⟩ := List.exists_cons_of_length_eq_add_one hlengths
    rw [hpath, hpending] at htrail
    cases left with
    | nil =>
      rw [turn, hpending]
      exact .leave hpath hpending
    | cons step left =>
      obtain ⟨tried, hfind, -⟩ := htrail.tried
      have hlisted : step ∈ tried ++ step :: left :=
        List.mem_append_right _ List.mem_cons_self
      obtain ⟨e, he, rfl, rfl⟩ := hindex.exists_edge hfind hlisted
      have htarget : e.target ∈ adjacency.keys := (hindex.ends e he).2
      obtain ⟨colour, hcolour⟩ := Colouring.exists_find? (h.keys.symm ▸ htarget)
      have hturn : e.step.target = e.target := rfl
      rw [turn, hpending]
      simp only [hturn, hcolour]
      cases colour with
      | inProgress =>
        have hon : e.target ∈ s.path := (h.inProgress_iff _).mp hcolour
        simp only [List.contains_iff_mem.mpr hon, if_true]
        exact .close hpath hpending he hon
      | done => exact .skip hpath hpending hcolour
      | unvisited =>
        obtain ⟨next, hnext⟩ := hindex.find?_isSome htarget
        simp only [hnext]
        exact .enter hpath hpending he hcolour hnext

/-! ## 3. What a turn does -/

theorem leave_eq {s : Search} {a : Text} {path : List Text} (h : s.path = a :: path)
    (rest : List (List Step)) :
    s.leave rest = ⟨path, s.taken.drop 1, rest, s.colours.paint a .done⟩ := by
  simp [leave, h]

/-- The innermost node is in progress. -/
theorem Sound.head_inProgress {s : Search} (h : Sound adjacency edges s) {a : Text}
    {path : List Text} (hpath : s.path = a :: path) : s.colours.find? a = some .inProgress :=
  (h.inProgress_iff a).mpr (hpath ▸ List.mem_cons_self)

/-- While steps are pending the stacks make a trail. -/
theorem Sound.trail_of_path {s : Search} (h : Sound adjacency edges s) {a : Text}
    {path : List Text} (hpath : s.path = a :: path) :
    Trail adjacency edges s.colours none s.path s.taken s.pending := by
  rcases h.trail with ⟨hnone, -⟩ | htrail
  · rw [hpath] at hnone
    cases hnone
  · exact htrail

/-- Every edge from a node that is given up leads to a node that is done. -/
theorem Sound.targets_done {s : Search} (hindex : Indexes adjacency edges)
    (h : Sound adjacency edges s) {a : Text} {path : List Text} {rest : List (List Step)}
    (hpath : s.path = a :: path) (hpending : s.pending = [] :: rest) :
    ∀ e ∈ edges, e.source = a → s.colours.find? e.target = some .done := by
  rintro e he rfl
  have htrail := h.trail_of_path hpath
  rw [hpath, hpending] at htrail
  obtain ⟨tried, hfind, htried⟩ := htrail.tried
  rw [List.append_nil] at hfind
  exact (htried e.step (hindex.step_mem he hfind)).resolve_right fun h => by cases h

/-- A turn that goes on leaves done what is done. -/
theorem Move.keeps {s s' : Search} (h : Move adjacency edges s (.goOn s')) :
    ∀ x, s.colours.find? x = some .done → s'.colours.find? x = some .done := by
  cases h with
  | leave hpath _ =>
    rw [leave_eq hpath]
    exact Colouring.keeps_paint (.inr rfl)
  | skip _ _ _ => exact fun x hx => hx
  | enter _ _ _ hcolour _ => exact Colouring.keeps_paint (.inl fun h => by cases hcolour.symm.trans h)

/-- A node that has been visited stays visited. -/
theorem Move.visited {s s' : Search} (h : Move adjacency edges s (.goOn s')) :
    ∀ x, s.colours.find? x ≠ some .unvisited → s'.colours.find? x ≠ some .unvisited := by
  cases h with
  | leave hpath _ =>
    rw [leave_eq hpath]
    exact fun x => mt (Colouring.unvisited_of_paint fun h => by cases h)
  | skip _ _ _ => exact fun x hx => hx
  | enter _ _ _ _ _ => exact fun x => mt (Colouring.unvisited_of_paint fun h => by cases h)

/-- Giving up the innermost node keeps the stacks and the colours together. -/
theorem Sound.leave {s : Search} (hindex : Indexes adjacency edges) (h : Sound adjacency edges s)
    {a : Text} {path : List Text} {rest : List (List Step)} (hpath : s.path = a :: path)
    (hpending : s.pending = [] :: rest) : Sound adjacency edges (s.leave rest) := by
  have hkeeps : ∀ x, s.colours.find? x = some .done →
      (s.colours.paint a .done).find? x = some .done := Colouring.keeps_paint (.inr rfl)
  have hdone : (s.colours.paint a .done).find? a = some .done :=
    Colouring.find?_paint_self (Colouring.mem_keys_of_find? (h.head_inProgress hpath)) _
  have hnodup := hpath ▸ h.nodup
  have htrail := h.trail_of_path hpath
  rw [hpath, hpending] at htrail
  rw [leave_eq hpath]
  refine ⟨(Colouring.keys_paint _ _ _).trans h.keys, (List.nodup_cons.mp hnodup).2, ?_, ?_,
    htrail.give_up hkeeps hdone⟩
  · intro x
    by_cases he : a = x
    · subst he
      simp only [hdone]
      exact ⟨fun h => (by cases h), fun hx => absurd hx (List.nodup_cons.mp hnodup).1⟩
    · simp only [Colouring.find?_paint_of_ne he, h.inProgress_iff, hpath, List.mem_cons]
      exact ⟨fun hx => hx.resolve_left fun h => he h.symm, .inr⟩
  · intro e he hsource
    refine hkeeps _ ?_
    by_cases hs : a = e.source
    · exact h.targets_done hindex hpath hpending e he hs.symm
    · refine h.closed e he ?_
      rw [← hsource]
      exact (Colouring.find?_paint_of_ne hs _).symm

/-- So does passing over a step to a node that is done. -/
theorem Sound.skip {s : Search} (h : Sound adjacency edges s) {a : Text} {path : List Text}
    {step : Step} {left : List Step} {rest : List (List Step)} (hpath : s.path = a :: path)
    (hpending : s.pending = (step :: left) :: rest)
    (hdone : s.colours.find? step.target = some .done) :
    Sound adjacency edges { s with pending := left :: rest } := by
  have htrail := h.trail_of_path hpath
  rw [hpath, hpending] at htrail
  refine ⟨h.keys, h.nodup, h.inProgress_iff, h.closed, .inr ?_⟩
  rw [hpath]
  exact htrail.replace (htrail.tried.step (.inl hdone))

/-- So does entering a node that has not been visited. -/
theorem Sound.enter {s : Search} (h : Sound adjacency edges s) {e : Edge} {path : List Text}
    {left next : List Step} {rest : List (List Step)} (hpath : s.path = e.source :: path)
    (hpending : s.pending = (e.step :: left) :: rest) (he : e ∈ edges)
    (hcolour : s.colours.find? e.target = some .unvisited)
    (hnext : adjacency.find? e.target = some next) :
    Sound adjacency edges (s.enter e.step next (left :: rest)) := by
  have hkeeps : ∀ x, s.colours.find? x = some .done →
      (s.colours.paint e.target .inProgress).find? x = some .done :=
    Colouring.keeps_paint (.inl fun h => by cases hcolour.symm.trans h)
  have htarget : e.target ∈ s.colours.keys := Colouring.mem_keys_of_find? hcolour
  have hnew : (s.colours.paint e.target .inProgress).find? e.target = some .inProgress :=
    Colouring.find?_paint_self htarget _
  have hfresh : e.target ∉ s.path := by
    intro hon
    rw [(h.inProgress_iff _).mpr hon] at hcolour
    cases hcolour
  have htrail := h.trail_of_path hpath
  rw [hpath, hpending] at htrail
  refine ⟨(Colouring.keys_paint _ _ _).trans h.keys, List.nodup_cons.mpr ⟨hfresh, h.nodup⟩, ?_, ?_,
    .inr ?_⟩
  · intro x
    by_cases hx : e.target = x
    · subst hx
      exact ⟨fun _ => List.mem_cons_self, fun _ => hnew⟩
    · simp only [Search.enter, Edge.step, Colouring.find?_paint_of_ne hx, h.inProgress_iff,
        List.mem_cons]
      exact ⟨.inr, fun hm => hm.resolve_left fun h => hx h.symm⟩
  · intro d hd hsource
    refine hkeeps _ (h.closed d hd ?_)
    have hs : e.target ≠ d.source := by
      intro hs
      simp only [Search.enter, Edge.step, ← hs, hnew] at hsource
      cases hsource
    rw [← hsource]
    exact (Colouring.find?_paint_of_ne hs _).symm
  · have hbelow : Trail adjacency edges (s.enter e.step next (left :: rest)).colours (some e.target)
        (e.source :: path) s.taken (left :: rest) :=
      (htrail.replace (htrail.tried.step (.inr rfl))).mono hkeeps
    have hnone : Tried adjacency (s.enter e.step next (left :: rest)).colours e.target next none :=
      ⟨[], hnext, fun _ h => by cases h⟩
    simp only [Search.enter, Edge.step, hpath]
    exact .onward he hnone hbelow

/-- **A turn that goes on keeps the stacks and the colours together.** -/
theorem Sound.goOn {s s' : Search} (hindex : Indexes adjacency edges) (h : Sound adjacency edges s)
    (hmove : Move adjacency edges s (.goOn s')) : Sound adjacency edges s' := by
  cases hmove with
  | leave hpath hpending => exact h.leave hindex hpath hpending
  | skip hpath hpending hdone => exact h.skip hpath hpending hdone
  | enter hpath hpending he hcolour hnext => exact h.enter hpath hpending he hcolour hnext

/-- **The nodes that are done stay in an order in which every edge leads on.**  A node that is given
up goes to the front: all its edges lead to nodes that are done. -/
theorem Sound.settles {s s' : Search} (hindex : Indexes adjacency edges)
    (h : Sound adjacency edges s) (hmove : Move adjacency edges s (.goOn s'))
    (hsettles : s.colours.Settles edges) : s'.colours.Settles edges := by
  obtain ⟨order, hsettled, hmem⟩ := hsettles
  cases hmove with
  | @leave a path rest hpath hpending =>
    have hhead := h.head_inProgress hpath
    have ha : a ∉ order := by
      intro hm
      rw [(hmem a).mp hm] at hhead
      cases hhead
    have htargets := h.targets_done hindex hpath hpending
    refine ⟨a :: order, .cons ha (fun e he hs => (hmem _).mpr (htargets e he hs)) hsettled, ?_⟩
    rw [leave_eq hpath]
    intro x
    by_cases he : a = x
    · subst he
      exact ⟨fun _ => Colouring.find?_paint_self (Colouring.mem_keys_of_find? hhead) _,
        fun _ => List.mem_cons_self⟩
    · rw [Colouring.find?_paint_of_ne he, ← hmem, List.mem_cons]
      exact ⟨fun hx => hx.resolve_left fun h => he h.symm, .inr⟩
  | skip _ _ _ => exact ⟨order, hsettled, hmem⟩
  | @enter e path left next rest hpath hpending he hcolour hnext =>
    refine ⟨order, hsettled, fun x => (hmem x).trans ?_⟩
    by_cases hx : e.target = x
    · subst hx
      rw [hcolour]
      simp only [Search.enter, Edge.step,
        Colouring.find?_paint_self (Colouring.mem_keys_of_find? hcolour)]
      exact ⟨fun h => (by cases h), fun h => (by cases h)⟩
    · simp only [Search.enter, Edge.step, Colouring.find?_paint_of_ne hx]

/-- Every node of the path stays within reach of what reached the path. -/
theorem Move.reached {s s' : Search} {root : Text} (hmove : Move adjacency edges s (.goOn s'))
    (h : ∀ x ∈ s.path, Reaches edges root x) : ∀ x ∈ s'.path, Reaches edges root x := by
  cases hmove with
  | leave hpath _ =>
    rw [leave_eq hpath]
    exact fun x hx => h x (hpath ▸ List.mem_cons_of_mem _ hx)
  | skip _ _ _ => exact h
  | @enter e path left next rest hpath _ he _ _ =>
    intro x hx
    rcases List.mem_cons.mp hx with rfl | hx
    · exact (h e.source (hpath ▸ List.mem_cons_self)).trans (.edge he)
    · exact h x hx

/-! ## 4. All turns of a run -/

/-- One search comes from another by turns that go on. -/
def Turns (adjacency : OrderedMap Text (List Step)) : Search → Search → Prop :=
  Relation.ReflTransGen fun s s' => s.turn adjacency = .goOn s'

/-- A run is turns that go on and one that stops. -/
theorem exists_turns (adjacency : OrderedMap Text (List Step)) (s : Search) :
    ∃ last, Turns adjacency s last ∧ last.turn adjacency = .stop (s.run adjacency) := by
  fun_induction run adjacency s with
  | case1 s v h => exact ⟨s, .refl, h⟩
  | case2 s s' h ih =>
    obtain ⟨last, hturns, hstop⟩ := ih
    exact ⟨last, .head h hturns, hstop⟩

/-- **What every turn of a sound search keeps holds to the end.** -/
theorem Sound.turns {P : Search → Prop} (hindex : Indexes adjacency edges)
    (hstep : ∀ s s', Sound adjacency edges s → Move adjacency edges s (.goOn s') → P s → P s')
    {s last : Search} (hturns : Turns adjacency s last) (h : Sound adjacency edges s) (hp : P s) :
    Sound adjacency edges last ∧ P last := by
  induction hturns with
  | refl => exact ⟨h, hp⟩
  | tail _ hturn ih =>
    obtain ⟨hsound, hprev⟩ := ih
    have hmove := hsound.move hindex
    rw [hturn] at hmove
    exact ⟨hsound.goOn hindex hmove, hstep _ _ hsound hmove hprev⟩

/-! ## 5. What a closing step reports -/

/-- Nothing is erased from a list in which nothing occurs twice. -/
theorem eraseDups_of_nodup {l : List Text} (h : l.Nodup) : l.eraseDups = l := by
  induction l with
  | nil => rfl
  | cons a rest ih =>
    obtain ⟨ha, hrest⟩ := List.nodup_cons.mp h
    rw [List.eraseDups_cons]
    have hkept : rest.filter (fun b => !b == a) = rest := by
      refine List.filter_eq_self.mpr fun b hb => ?_
      have hne : b ≠ a := fun heq => ha (heq ▸ hb)
      simpa using hne
    rw [hkept, ih hrest]

/-- Edges with different sources have different ids, if every id is that of one edge. -/
theorem nodup_ids {route : List Edge} (hids : (edges.map Edge.id).Nodup)
    (hroute : ∀ e ∈ route, e ∈ edges) (hsources : (route.map Edge.source).Nodup) :
    (route.map Edge.id).Nodup := by
  refine (List.nodup_map_iff_inj_on (List.Nodup.of_map _ hsources)).mpr fun d hd e he heq => ?_
  exact List.inj_on_of_nodup_map hids (hroute d hd) (hroute e he) heq

/-- The report names the sources and the ids of the edges of a walk that leads back to where it
began, and no node and no edge twice. -/
structure IsCycle (edges : List Edge) (first : Text) (report : CycleReport) : Prop where
  exists_walk : ∃ route, route ≠ [] ∧ Walk edges first route first ∧
    report = ⟨false, route.map Edge.source, route.map Edge.id⟩
  nodes_nodup : report.nodes.Nodup
  edges_nodup : report.edges.Nodup

namespace IsCycle

variable {first : Text} {report : CycleReport}

theorem isAcyclic_eq (h : IsCycle edges first report) : report.isAcyclic = false := by
  obtain ⟨route, -, -, rfl⟩ := h.exists_walk
  rfl

/-- As many nodes as edges, and at least one. -/
theorem lengths (h : IsCycle edges first report) :
    1 ≤ report.nodes.length ∧ report.edges.length = report.nodes.length := by
  obtain ⟨route, hne, -, rfl⟩ := h.exists_walk
  simp only [List.length_map, and_true]
  exact List.length_pos_iff.mpr hne

theorem head_eq (h : IsCycle edges first report) : report.nodes[0]? = some first := by
  obtain ⟨route, hne, hwalk, rfl⟩ := h.exists_walk
  obtain ⟨e, rest, rfl⟩ := List.exists_cons_of_ne_nil hne
  exact congrArg some hwalk.source_eq

/-- The node with which the report begins lies on a cycle. -/
theorem exists_loop (h : IsCycle edges first report) :
    ∃ loop, loop ≠ [] ∧ Walk edges first loop first := by
  obtain ⟨route, hne, hwalk, -⟩ := h.exists_walk
  exact ⟨route, hne, hwalk⟩

/-- **Each edge of the report leads from the node in its place to the next one**, and the last one
leads to the first. -/
theorem exists_edge (h : IsCycle edges first report) {i : Nat} (hi : i < report.nodes.length) :
    ∃ e ∈ edges, report.nodes[i]? = some e.source ∧ report.edges[i]? = some e.id ∧
      report.nodes[(i + 1) % report.nodes.length]? = some e.target := by
  have hhead := h.head_eq
  obtain ⟨route, -, hwalk, rfl⟩ := h.exists_walk
  simp only [List.length_map] at hi hhead ⊢
  refine ⟨route[i], hwalk.mem _ (List.getElem_mem hi), ?_, ?_, ?_⟩
  · rw [List.getElem?_map, List.getElem?_eq_getElem hi, Option.map_some]
  · rw [List.getElem?_map, List.getElem?_eq_getElem hi, Option.map_some]
  · rw [hwalk.target_getElem i hi]
    by_cases hnext : i + 1 < route.length
    · rw [dif_pos hnext, Nat.mod_eq_of_lt hnext, List.getElem?_map,
        List.getElem?_eq_getElem hnext, Option.map_some]
    · have hlast : i + 1 = route.length := by omega
      rw [dif_neg hnext, hlast, Nat.mod_self]
      exact hhead

end IsCycle

/-- A path from its root on, cut at a node that it passes once. -/
theorem reverse_split (inner : List Text) {outer : List Text} {x : Text} (h : x ∉ outer) :
    (inner ++ x :: outer).reverse = outer.reverse ++ (inner ++ [x]).reverse ∧
      (inner ++ x :: outer).reverse.idxOf x = outer.reverse.length := by
  have hreverse : (inner ++ x :: outer).reverse = outer.reverse ++ (inner ++ [x]).reverse := by
    rw [← List.reverse_append, List.append_assoc, List.singleton_append]
  have hbefore : x ∉ outer.reverse := fun hx => h (List.mem_reverse.mp hx)
  refine ⟨hreverse, ?_⟩
  rw [hreverse, List.idxOf_append_of_notMem hbefore, List.reverse_append]
  exact congrArg (outer.reverse.length + ·) List.idxOf_cons_self

/-- **A step that closes a cycle reports one.**  The path from the node to which it leads back, in
the order from the root, and the edges taken from there belong to the same walk. -/
theorem Sound.isCycle_closedBy {s : Search} (hids : (edges.map Edge.id).Nodup)
    (h : Sound adjacency edges s) {e : Edge} {path : List Text} (hpath : s.path = e.source :: path)
    (he : e ∈ edges) (hon : e.target ∈ s.path) : IsCycle edges e.target (s.closedBy e.step) := by
  obtain ⟨inner, outer, hsplit⟩ := List.append_of_mem hon
  have htrail := h.trail_of_path hpath
  have hlengths := htrail.lengths.2
  have hnodup := h.nodup
  rw [hsplit] at htrail hlengths hnodup
  obtain ⟨a, route, hhead, hwalk, hnodes, htaken⟩ := htrail.walk
  have ha : a = e.source := by
    have hboth : (inner ++ e.target :: outer).head? = some e.source := by
      rw [← hsplit, hpath]
      rfl
    have hsame : (inner ++ e.target :: outer).head? = (inner ++ [e.target]).head? := by
      cases inner <;> rfl
    rw [hsame, hhead] at hboth
    exact Option.some.inj hboth
  subst ha
  obtain ⟨hreverse, hfirst⟩ :=
    reverse_split inner (List.nodup_cons.mp (List.nodup_append.mp hnodup).2.1).1
  rw [← hsplit] at hreverse hfirst
  have hdrop : s.path.reverse.drop outer.reverse.length = (route ++ [e]).map Edge.source := by
    rw [hreverse, List.drop_left, hnodes, List.map_append]
    rfl
  have htakenDrop : s.taken.reverse.drop outer.reverse.length = route.map Edge.id := by
    have hlength : (s.taken.drop inner.length).reverse.length = outer.reverse.length := by
      simp only [List.length_append, List.length_cons, List.length_reverse, List.length_drop] at *
      omega
    rw [htaken, List.reverse_append, List.reverse_reverse, ← hlength, List.drop_left]
  have hsources : ((route ++ [e]).map Edge.source).Nodup := by
    rw [← hdrop]
    exact (List.drop_sublist _ _).nodup (List.nodup_reverse.mpr h.nodup)
  have hround : Walk edges e.target (route ++ [e]) e.target := hwalk.append (.single he)
  have hroundIds : ((route ++ [e]).map Edge.id).Nodup := nodup_ids hids hround.mem hsources
  have hreport : s.closedBy e.step =
      ⟨false, (route ++ [e]).map Edge.source, (route ++ [e]).map Edge.id⟩ := by
    have hids' : route.map Edge.id ++ [e.id] = (route ++ [e]).map Edge.id := by
      rw [List.map_append]
      rfl
    simp only [closedBy, Edge.step, hfirst, hdrop, htakenDrop, hids',
      eraseDups_of_nodup hsources, eraseDups_of_nodup hroundIds]
  rw [hreport]
  refine ⟨⟨route ++ [e], ?_, hround, rfl⟩, hsources, hroundIds⟩
  exact List.append_ne_nil_of_right_ne_nil _ (List.cons_ne_nil _ _)

end Search

end WorkflowGate
