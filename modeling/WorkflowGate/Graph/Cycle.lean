/-
# Cycles

A workflow must not run in circles.  The search goes depth first from each node in input order and
colours the nodes: not visited, in progress while they lie on the current path, done afterwards.  A
step to a node in progress closes a cycle, which is the part of the path from that node on.

The search is a machine with explicit stacks, innermost entry first.  Every turn either takes a step
off a stack of pending ones or gives up a visited node, and no node is visited twice, so it ends by
a measure of its state.  A step to a node that is not coloured at all, or in progress and not on the
path, stops it (`Verdict.stray`); a snapshot has no such step.

Edges that leave an error handle may be left out of the search: they may lead back on purpose.

* `Colouring.find?_paint`: painting a node changes its own colour and no other;
* `Colouring.unvisited_paint_lt`: visiting a node leaves fewer to be visited.
-/
import WorkflowGate.Graph.Snapshot

namespace WorkflowGate

/-- The text that marks a handle as one for errors. -/
def errorHandleMark : Text := "error"

namespace Snapshot

/-- Does the edge leave a handle for errors? -/
def leavesErrorHandle (e : Edge) : Bool :=
  (Edge.namedHandle e.sourceHandle).any fun h => h.contains errorHandleMark

/-- The ids of the edges that leave a handle for errors. -/
def errorEdgeIds (s : Snapshot) : List Text := (s.edges.filter leavesErrorHandle).map (·.id)

/-- The steps that the search may take. -/
def traversable (s : Snapshot) (ignoreErrorHandles : Bool) : OrderedMap Text (List Step) :=
  if ignoreErrorHandles then
    let left := s.errorEdgeIds
    s.adjacency.mapValues fun _ steps => steps.filter fun step => !left.contains step.edgeId
  else s.adjacency

end Snapshot

/-! ## 1. Colours -/

/-- How far the search has got with a node. -/
inductive Colour
  | unvisited
  | inProgress
  | done
deriving DecidableEq

/-- The colours of all nodes. -/
abbrev Colouring := OrderedMap Text Colour

namespace Colouring

/-- Nothing has been visited. -/
def start (s : Snapshot) : Colouring := s.nodes.mapValues fun _ _ => .unvisited

/-- Gives a node a colour. -/
def paint (c : Colouring) (id : Text) (colour : Colour) : Colouring := c.modify id fun _ => colour

/-- How many nodes have not been visited. -/
def unvisited (c : Colouring) : Nat := c.entries.countP fun e => e.2 = .unvisited

/-- Painting a node changes its own colour, if it has one, and no other. -/
theorem find?_paint (c : Colouring) (id : Text) (colour : Colour) (other : Text) :
    (c.paint id colour).find? other =
      if id = other then (c.find? other).map fun _ => colour else c.find? other :=
  OrderedMap.find?_modify c id other _

/-- Painting colours no further node. -/
@[simp] theorem keys_paint (c : Colouring) (id : Text) (colour : Colour) :
    (c.paint id colour).keys = c.keys :=
  OrderedMap.keys_modify c id _

/-- Painting changes entries in place. -/
theorem entries_paint (c : Colouring) (id : Text) (colour : Colour) :
    (c.paint id colour).entries = c.entries.map fun e => (e.1, if e.1 = id then colour else e.2) :=
  rfl

theorem countP_paint_le (es : List (Text × Colour)) (id : Text) {colour : Colour}
    (h : colour ≠ .unvisited) :
    ((es.map fun e => (e.1, if e.1 = id then colour else e.2)).countP fun e => e.2 = .unvisited) ≤
      es.countP fun e => e.2 = .unvisited := by
  rw [List.countP_map]
  refine List.countP_mono_left fun e _ he => ?_
  by_cases hid : e.1 = id <;> simp_all

/-- Painting a node in any other colour than `unvisited` adds none that is to be visited. -/
theorem unvisited_paint_le (c : Colouring) (id : Text) {colour : Colour} (h : colour ≠ .unvisited) :
    (c.paint id colour).unvisited ≤ c.unvisited :=
  countP_paint_le c.entries id h

/-- **Visiting a node leaves fewer to be visited.** -/
theorem unvisited_paint_lt (c : Colouring) (id : Text) {colour : Colour} (h : colour ≠ .unvisited)
    (hid : c.find? id = some .unvisited) : (c.paint id colour).unvisited < c.unvisited := by
  rw [OrderedMap.find?] at hid
  rw [unvisited, unvisited, entries_paint]
  generalize c.entries = es at hid ⊢
  induction es with
  | nil => cases hid
  | cons e rest ih =>
    obtain ⟨k, v⟩ := e
    rw [OrderedMap.lookup] at hid
    rw [List.map_cons, List.countP_cons, List.countP_cons]
    by_cases hk : k = id
    · rw [if_pos hk, Option.some.injEq] at hid
      have hle := countP_paint_le rest id h
      simp only [hk, hid, if_true, h, decide_false, decide_true, Bool.false_eq_true, if_false]
      omega
    · rw [if_neg hk] at hid
      have hlt := ih hid
      simp only [hk, if_false]
      omega

end Colouring

/-! ## 2. The machine -/

/-- What a search found: that there is no cycle, or the nodes and the edges of one. -/
structure CycleReport where
  isAcyclic : Bool := true
  nodes : List Text := []
  edges : List Text := []
deriving DecidableEq

/-- How the search from one root ended. -/
inductive Verdict
  | clear (colours : Colouring)
  | cycle (report : CycleReport)
  | stray (id : Text)

/-- The state of a search: the nodes of the current path, the edges taken between them, and for each
node of the path the steps that have not been tried, all innermost first. -/
structure Search where
  path : List Text
  taken : List Text
  pending : List (List Step)
  colours : Colouring

namespace Search

/-- The search that begins at a root. -/
def start (colours : Colouring) (root : Text) (steps : List Step) : Search :=
  { path := [root], taken := [], pending := [steps], colours := colours.paint root .inProgress }

/-- The part of the path that a step back to one of its nodes closes: from the root on, the nodes
from that one on, and the edges taken from there with the closing one last, each of them once. -/
def closedBy (s : Search) (step : Step) : CycleReport :=
  let path := s.path.reverse
  let first := path.idxOf step.target
  { isAcyclic := false
    nodes := (path.drop first).eraseDups
    edges := (s.taken.reverse.drop first ++ [step.edgeId]).eraseDups }

/-- Gives up the innermost node: it is done. -/
def leave (s : Search) (rest : List (List Step)) : Search :=
  { path := s.path.drop 1
    taken := s.taken.drop 1
    pending := rest
    colours :=
      match s.path with
      | [] => s.colours
      | id :: _ => s.colours.paint id .done }

/-- Goes on to a node that has not been visited. -/
def enter (s : Search) (step : Step) (steps : List Step) (pending : List (List Step)) : Search :=
  { path := step.target :: s.path
    taken := step.edgeId :: s.taken
    pending := steps :: pending
    colours := s.colours.paint step.target .inProgress }

/-- What one turn leads to: the search goes on, or it has ended. -/
inductive Turn
  | goOn (s : Search)
  | stop (v : Verdict)

/-- One turn of the search. -/
def turn (adjacency : OrderedMap Text (List Step)) (s : Search) : Turn :=
  match s.pending with
  | [] => .stop (.clear s.colours)
  | [] :: rest => .goOn (s.leave rest)
  | (step :: steps) :: rest =>
    match s.colours.find? step.target with
    | none => .stop (.stray step.target)
    | some .inProgress =>
      if s.path.contains step.target then .stop (.cycle (s.closedBy step))
      else .stop (.stray step.target)
    | some .done => .goOn { s with pending := steps :: rest }
    | some .unvisited =>
      match adjacency.find? step.target with
      | none => .stop (.stray step.target)
      | some next => .goOn (s.enter step next (steps :: rest))

/-- How many steps and stacks of steps are pending. -/
def backlog (s : Search) : Nat := s.pending.foldr (fun steps n => steps.length + 1 + n) 0

/-- Every turn that goes on leaves fewer nodes to visit, or as many and a smaller backlog. -/
theorem turn_decreases {adjacency : OrderedMap Text (List Step)} {s s' : Search}
    (h : s.turn adjacency = .goOn s') :
    Prod.Lex (· < ·) (· < ·) (s'.colours.unvisited, s'.backlog)
      (s.colours.unvisited, s.backlog) := by
  have stays : ∀ {a b c d : Nat}, a ≤ b → c < d → Prod.Lex (· < ·) (· < ·) (a, c) (b, d) := by
    intro a b c d hab hcd
    rcases Nat.lt_or_eq_of_le hab with hlt | rfl
    · exact Prod.Lex.left _ _ hlt
    · exact Prod.Lex.right _ hcd
  unfold turn at h
  split at h
  · cases h
  · rename_i rest hp
    cases h
    refine stays ?_ (by simp [backlog, leave, hp])
    cases hpath : s.path with
    | nil => simp [leave, hpath]
    | cons id path =>
      simpa [leave, hpath] using Colouring.unvisited_paint_le s.colours id (by decide)
  · rename_i step steps rest hp
    split at h
    · cases h
    · split at h <;> cases h
    · cases h
      exact stays (Nat.le_refl _) (by simp [backlog, hp])
    · rename_i hcolour
      split at h
      · cases h
      · cases h
        exact Prod.Lex.left _ _ (Colouring.unvisited_paint_lt _ _ (by decide) hcolour)

/-- Turns until the search has ended. -/
def run (adjacency : OrderedMap Text (List Step)) (s : Search) : Verdict :=
  match _h : s.turn adjacency with
  | .stop v => v
  | .goOn s' => run adjacency s'
termination_by (s.colours.unvisited, s.backlog)
decreasing_by exact turn_decreases _h

end Search

/-- Searches from one root after the other, as long as no cycle is found; a root that has been
visited is passed over. -/
def searchRoots (adjacency : OrderedMap Text (List Step)) (colours : Colouring) :
    List Text → Verdict
  | [] => .clear colours
  | root :: rest =>
    match colours.find? root with
    | none => .stray root
    | some .unvisited =>
      match adjacency.find? root with
      | none => .stray root
      | some steps =>
        match (Search.start colours root steps).run adjacency with
        | .clear colours => searchRoots adjacency colours rest
        | v => v
    | some _ => searchRoots adjacency colours rest

namespace Snapshot

/-- Searches the snapshot for a cycle. -/
def searchCycle (s : Snapshot) (ignoreErrorHandles : Bool) : Verdict :=
  searchRoots (s.traversable ignoreErrorHandles) (Colouring.start s) s.nodes.keys

/-- The first cycle that the search meets, if there is one. -/
def detectCycle (s : Snapshot) (ignoreErrorHandles : Bool := false) : Except Fault CycleReport :=
  match s.searchCycle ignoreErrorHandles with
  | .clear _ => .ok {}
  | .cycle report => .ok report
  | .stray id => .error (.missingEntry id)

/-- The finding on one node of a cycle. -/
def cycleMember (s : Snapshot) (id : Text) : Finding :=
  .warning .nodeInCycle ("Node \"" ++ s.displayName id ++ "\" is part of a cycle") id

/-- An error on the cycle and a warning on each of its nodes. -/
def cycleFindings (s : Snapshot) (report : CycleReport) : List Finding :=
  if report.isAcyclic then []
  else
    match report.nodes with
    | [] => []
    | first :: rest =>
      .error .cycleDetected "Workflow contains a cycle. Cycles are not allowed in workflows."
          first ::
        (first :: rest).map s.cycleMember

/-- The record of a cycle that was found. -/
def cycleRecords (report : CycleReport) : List LogRecord :=
  if report.isAcyclic then []
  else [.of .cycles .debug ("Cycle found through " ++ Text.quotedList report.nodes)]

end Snapshot

end WorkflowGate
