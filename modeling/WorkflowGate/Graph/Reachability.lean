/-
# Reachability

A run of a workflow begins at its triggers.  A breadth-first search from all of them sorts the other
nodes: a node that some path reaches without leaving a branching node on the way always runs; a node
that is reached otherwise, or is cut off but fed by branching nodes alone, runs under conditions;
nothing leads to the rest.

A node without any edge is an orphan.  An orphan is reported as such and not as unreachable.

* `Reach.unreached_lt`: visiting a node leaves fewer to be reached, so the search ends;
* `classify_without_triggers`: without a trigger nothing is reachable.
-/
import WorkflowGate.Graph.Snapshot
import WorkflowGate.Run

namespace WorkflowGate

/-- The kind of the trigger that people press themselves. -/
def manualTriggerKind : Text := "manual_trigger"

/-! ## 1. Breadth-first search -/

namespace Reach

/-- How many of the keys have not been reached. -/
def unreached (adjacency : OrderedMap Text (List Step)) (reached : List Text) : Nat :=
  adjacency.keys.countP fun id => !reached.contains id

/-- Reaching one more node adds none that is to be reached. -/
theorem unreached_le (adjacency : OrderedMap Text (List Step)) (reached : List Text) (id : Text) :
    unreached adjacency (id :: reached) ≤ unreached adjacency reached := by
  apply List.countP_mono_left
  intro k _ hk
  simp only [Bool.not_eq_true', List.contains_cons, Bool.or_eq_false_iff] at hk ⊢
  exact hk.2

/-- **Reaching a new node leaves fewer to be reached.** -/
theorem unreached_lt {adjacency : OrderedMap Text (List Step)} {reached : List Text} {id : Text}
    (hk : id ∈ adjacency.keys) (hn : reached.contains id = false) :
    unreached adjacency (id :: reached) < unreached adjacency reached := by
  unfold unreached
  have key : ∀ keys : List Text, id ∈ keys →
      keys.countP (fun k => !(id :: reached).contains k) <
        keys.countP fun k => !reached.contains k := by
    intro keys
    induction keys with
    | nil => intro h; cases h
    | cons k rest ih =>
      intro hm
      have hle : rest.countP (fun k => !(id :: reached).contains k) ≤
          rest.countP fun k => !reached.contains k := by
        apply List.countP_mono_left
        intro j _ hj
        simp only [Bool.not_eq_true', List.contains_cons, Bool.or_eq_false_iff] at hj ⊢
        exact hj.2
      by_cases he : k = id
      · subst he
        simp only [List.countP_cons, List.contains_cons, beq_self_eq_true, Bool.true_or, hn,
          Bool.not_true, Bool.not_false, if_true]
        simp only [List.contains_cons] at hle
        simp only [Bool.false_eq_true, if_false]
        omega
      · have hm' : id ∈ rest := by
          rcases List.mem_cons.mp hm with h | h
          · exact absurd h.symm he
          · exact h
        have := ih hm'
        have hb : (k == id) = false := by simpa using he
        simp only [List.countP_cons, List.contains_cons, hb, Bool.false_or] at this ⊢
        omega
  exact key _ hk

/-- Searches from the nodes in the queue.  The steps of a node are followed only if the test allows
it; a node without steps on record stops the search. -/
def search (adjacency : OrderedMap Text (List Step)) (follow : Text → Bool) (reached : List Text) :
    (queue : List Text) → Except Fault (List Text)
  | [] => .ok reached
  | id :: queue =>
    if _hr : reached.contains id then search adjacency follow reached queue
    else if follow id then
      match _hs : adjacency.find? id with
      | none => .error (.missingEntry id)
      | some steps =>
        search adjacency follow (id :: reached) (queue ++ steps.map (·.target))
    else search adjacency follow (id :: reached) queue
termination_by queue => (unreached adjacency reached, queue.length)
decreasing_by
  · exact Prod.Lex.right _ (by simp)
  · refine Prod.Lex.left _ _ (unreached_lt ?_ (by simpa using _hr))
    exact (OrderedMap.contains_iff adjacency id).mp (by simp [OrderedMap.contains, _hs])
  · rcases Nat.lt_or_eq_of_le (unreached_le adjacency reached id) with hlt | heq
    · exact Prod.Lex.left _ _ hlt
    · rw [heq]; exact Prod.Lex.right _ (by simp)

end Reach

/-! ## 2. Sorting the nodes -/

/-- The nodes that are no triggers, sorted, in the order in which they were given. -/
structure Reachability where
  triggers : List Text := []
  unreachable : List Text := []
  conditional : List Text := []
deriving DecidableEq

namespace Snapshot

/-- The nodes that some path reaches from the seeds, leaving only nodes that satisfy the test. -/
def reachedFrom (s : Snapshot) (seeds : List Text) (follow : Text → Bool) :
    Except Fault (List Text) :=
  Reach.search s.adjacency follow [] seeds

/-- Is the node fed by branching nodes, and by nothing else? -/
def fedByBranches (s : Snapshot) (branching : List Text) (id : Text) : Bool :=
  let incoming := s.edgesTo id
  !incoming.isEmpty && incoming.all fun e => branching.contains e.source

/-- Sorts the nodes, given which of them are triggers and which are branching. -/
def classify (s : Snapshot) (triggers branching : List Text) : Except Fault Reachability := do
  let candidates := s.nodes.keys.filter fun id => !triggers.contains id
  if triggers.isEmpty then return { unreachable := candidates }
  else
    let always ← s.reachedFrom triggers fun id => !branching.contains id
    let anywhere ← s.reachedFrom triggers fun _ => true
    let doubtful := candidates.filter fun id => !always.contains id
    let underConditions (id : Text) : Bool := anywhere.contains id || s.fedByBranches branching id
    return ⟨triggers, doubtful.filter fun id => !underConditions id, doubtful.filter underConditions⟩

/-- Without a trigger nothing is reachable. -/
theorem classify_without_triggers (s : Snapshot) (branching : List Text) :
    s.classify [] branching = .ok { unreachable := s.nodes.keys } := by
  simp [classify, pure, Except.pure]

/-- The nodes that start a run. -/
def findTriggers (s : Snapshot) : Run (List Text) :=
  (·.map Node.id) <$> s.nodeList.filterM fun n => Run.isTrigger n.kind

/-- The nodes that choose where a run goes on. -/
def findBranching (s : Snapshot) : Run (List Text) :=
  (·.map Node.id) <$> s.nodeList.filterM fun n => Run.isBranching n.kind

/-- The record of a finished analysis. -/
def reachabilityRecord (r : Reachability) : LogRecord :=
  .of .reachability .debug
    ("Reachability: " ++ Text.ofNat r.triggers.length ++ Text.ofString " triggers, " ++
      Text.ofNat r.unreachable.length ++ Text.ofString " unreachable, " ++
      Text.ofNat r.conditional.length ++ Text.ofString " conditional")

/-- Sorts the nodes of the snapshot.  The branching nodes are not looked for when there is no
trigger. -/
def analyzeReachability (s : Snapshot) : Run Reachability := do
  let triggers ← s.findTriggers
  if triggers.isEmpty then Run.lift (s.classify [] [])
  else
    let branching ← s.findBranching
    let report ← Run.lift (s.classify triggers branching)
    Run.record [reachabilityRecord report]
    return report

/-! ## 3. Orphans -/

/-- Does an edge begin or end at the node? -/
def isConnected (s : Snapshot) (id : Text) : Bool :=
  s.edges.any fun e => e.source = id || e.target = id

/-- The nodes without any edge that are neither triggers nor within a group. -/
def findOrphans (s : Snapshot) : Run (List Text) :=
  (·.map Node.id) <$> s.nodeList.filterM fun n =>
    if s.isConnected n.id then pure false
    else return !(← Run.isTrigger n.kind) && n.parentId.isNone

/-! ## 4. Findings -/

/-- What there is to say of the triggers: that there is none, or that there are several and none of
them is pressed by people. -/
def triggerAdvice (s : Snapshot) (triggers : List Text) : List Finding :=
  let manual := triggers.any fun id => (s.nodes.find? id).any fun n => n.kind = manualTriggerKind
  if triggers.isEmpty then
    [.error .noTrigger "Workflow must have at least one trigger node to start execution."]
  else if triggers.length > 1 && !manual then
    [.warning .multipleTriggers
      ("Workflow has " ++ Text.ofNat triggers.length ++
        Text.ofString " triggers. Ensure logic handles multiple entry points.")]
  else []

/-- The findings on the triggers. -/
def triggerFindings (s : Snapshot) : Run (List Finding) := s.triggerAdvice <$> s.findTriggers

/-- The findings on nodes that do not always run.  Orphans are left out, and so is everything when
there is no trigger, which is reported already. -/
def reachabilityFindings (s : Snapshot) (report : Reachability) (orphans : List Text) :
    List Finding :=
  let about (id : Text) (rest : String) : Text :=
    "Node \"" ++ s.displayName id ++ "\"" ++ Text.ofString rest
  if report.triggers.isEmpty then []
  else
    ((report.unreachable.filter fun id => !orphans.contains id).map fun id =>
      .warning .unreachableNode (about id " is not reachable from any trigger") id) ++
    report.conditional.map fun id =>
      .info .conditionallyReachable (about id " is only reachable under certain conditions") id

/-- The findings on orphans. -/
def orphanFindings (s : Snapshot) (orphans : List Text) : List Finding :=
  orphans.map fun id =>
    .warning .orphanNode ("Node \"" ++ s.displayName id ++ "\" has no connections") id

end Snapshot

end WorkflowGate
