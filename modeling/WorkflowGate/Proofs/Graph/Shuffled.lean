/-
# One graph in two orders

The order in which nodes and edges lie on a canvas is the order of every list that a snapshot keeps, and
each search goes by these lists.  What a search finds out, though, is a matter of nodes, edges and
walks, and these have no order.  So two snapshots of one graph sort its nodes into the same groups,
and have a cycle both or neither; only which of several cycles is met first depends on the order.

* `Snapshot.Shuffled`: the same nodes and edges, in whatever order;
* `Shuffled.find?_eq`, `Shuffled.walk_iff`: the same node under an id, the same walks;
* `Shuffled.cyclic_iff`: a cycle in both or in neither;
* `Shuffled.classify_perm`: **the nodes are sorted alike**;
* `shuffled_ofReadings`: so it is with entries in two orders, where no id comes twice.
-/
import WorkflowGate.Proofs.Graph.Acyclic
import WorkflowGate.Proofs.Graph.Ledger
import WorkflowGate.Proofs.Graph.Reached

namespace WorkflowGate

/-! ## 1. Who is in which group -/

namespace Reachability.Sorts

variable {s : Snapshot} {branching : Text → Prop} {r : Reachability}

theorem mem_unreachable_iff (h : r.Sorts s branching) (id : Text) :
    id ∈ r.unreachable ↔ id ∈ s.nodes.keys ∧ id ∉ r.triggers ∧
      (r.triggers ≠ [] → ¬ s.LedTo r.triggers id ∧ ¬ s.FedByBranchesAlone branching id) := by
  by_cases hnone : r.triggers = []
  · rw [(h.without_triggers hnone).1, hnone]
    simp
  · constructor
    · intro hid
      have hkey := h.unreachable_sublist.subset hid
      have hother : id ∉ r.triggers := fun ht => (h.no_trigger id ht).2 hid
      exact ⟨hkey, hother, fun _ => (h.unreachable_iff hnone id hkey hother).mp hid⟩
    · rintro ⟨hkey, hother, hcut⟩
      exact (h.unreachable_iff hnone id hkey hother).mpr (hcut hnone)

theorem mem_conditional_iff (h : r.Sorts s branching) (id : Text) :
    id ∈ r.conditional ↔ r.triggers ≠ [] ∧ id ∈ s.nodes.keys ∧ id ∉ r.triggers ∧
      (s.LedTo r.triggers id ∧ ¬ s.LedToFreely r.triggers branching id ∨
        ¬ s.LedTo r.triggers id ∧ s.FedByBranchesAlone branching id) := by
  by_cases hnone : r.triggers = []
  · rw [(h.without_triggers hnone).2]
    simp [hnone]
  · constructor
    · intro hid
      have hkey := h.conditional_sublist.subset hid
      have hother : id ∉ r.triggers := fun ht => (h.no_trigger id ht).1 hid
      have hsorted := (h.conditional_iff hnone id hkey hother).mp hid
      rw [← Snapshot.not_ledToFreely_iff] at hsorted
      exact ⟨hnone, hkey, hother, hsorted⟩
    · rintro ⟨-, hkey, hother, hsorted⟩
      rw [Snapshot.not_ledToFreely_iff] at hsorted
      exact (h.conditional_iff hnone id hkey hother).mpr hsorted

end Reachability.Sorts

namespace Snapshot

/-! ## 2. The same graph -/

/-- **The snapshots hold one graph**, in whatever order. -/
structure Shuffled (s s' : Snapshot) : Prop where
  consistent : s.Consistent
  consistent' : s'.Consistent
  nodes : s.nodeList.Perm s'.nodeList
  edges : s.edges.Perm s'.edges

namespace Shuffled

variable {s s' : Snapshot}

theorem keys (h : s.Shuffled s') : s.nodes.keys.Perm s'.nodes.keys := by
  rw [← h.consistent.map_id_nodeList, ← h.consistent'.map_id_nodeList]
  exact h.nodes.map Node.id

theorem size_eq (h : s.Shuffled s') : s.nodes.size = s'.nodes.size := by
  have hlength := h.nodes.length_eq
  simp only [nodeList, OrderedMap.values, List.length_map] at hlength
  exact hlength

/-- **The same node stands under an id.** -/
theorem find?_eq (h : s.Shuffled s') (id : Text) : s.nodes.find? id = s'.nodes.find? id := by
  refine Option.ext fun n => ?_
  rw [h.consistent.find?_eq_some_iff, h.consistent'.find?_eq_some_iff, h.nodes.mem_iff]

theorem displayName_eq (h : s.Shuffled s') (id : Text) : s.displayName id = s'.displayName id := by
  rw [displayName, displayName, h.find?_eq]

theorem isConnected_eq (h : s.Shuffled s') (id : Text) : s.isConnected id = s'.isConnected id :=
  h.edges.any_eq

/-- The same edges leave a node. -/
theorem edgesFrom_perm (h : s.Shuffled s') {id : Text} (hid : id ∈ s.nodes.keys) :
    (s.edgesFrom id).Perm (s'.edgesFrom id) := by
  have hid' : id ∈ s'.nodes.keys := h.keys.mem_iff.mp hid
  rw [edgesFrom, edgesFrom, h.consistent.outgoing_eq id hid, h.consistent'.outgoing_eq id hid']
  exact h.edges.filter _

theorem nodesOf_perm (h : s.Shuffled s') (categoryOf : Text → KindCategory)
    (category : KindCategory) :
    (s.nodesOf categoryOf category).Perm (s'.nodesOf categoryOf category) :=
  (h.nodes.filter _).map _

/-! ## 3. The same walks -/

/-- **The walks are the same.** -/
theorem walk_iff (h : s.Shuffled s') {a b : Text} {route : List Edge} :
    Walk s.edges a route b ↔ Walk s'.edges a route b := by
  constructor
  · exact Walk.mono fun e he => h.edges.mem_iff.mp he
  · exact Walk.mono fun e he => h.edges.mem_iff.mpr he

/-- **There is a cycle in both or in neither.** -/
theorem cyclic_iff (h : s.Shuffled s') (ignore : Bool) : s.Cyclic ignore ↔ s'.Cyclic ignore := by
  have hretained : (s.retained ignore).Perm (s'.retained ignore) := h.edges.filter _
  constructor
  · rintro ⟨a, ha, hcycle⟩
    exact ⟨a, h.keys.mem_iff.mp ha, hcycle.mono fun e he => hretained.mem_iff.mp he⟩
  · rintro ⟨a, ha, hcycle⟩
    exact ⟨a, h.keys.mem_iff.mpr ha, hcycle.mono fun e he => hretained.mem_iff.mpr he⟩

variable {triggers triggers' branching branching' : List Text}

theorem ledTo_iff (h : s.Shuffled s') (htriggers : triggers.Perm triggers') (id : Text) :
    s.LedTo triggers id ↔ s'.LedTo triggers' id := by
  simp only [LedTo, Reaches, htriggers.mem_iff, h.walk_iff]

theorem ledToFreely_iff (h : s.Shuffled s') (htriggers : triggers.Perm triggers')
    (hbranching : branching.Perm branching') (id : Text) :
    s.LedToFreely triggers (· ∈ branching) id ↔ s'.LedToFreely triggers' (· ∈ branching') id := by
  simp only [LedToFreely, htriggers.mem_iff, hbranching.mem_iff, h.walk_iff]

theorem fedByBranchesAlone_iff (h : s.Shuffled s') (hbranching : branching.Perm branching')
    (id : Text) :
    s.FedByBranchesAlone (· ∈ branching) id ↔ s'.FedByBranchesAlone (· ∈ branching') id := by
  simp only [FedByBranchesAlone, h.edges.mem_iff, hbranching.mem_iff]

/-! ## 4. The same groups -/

/-- **The nodes are sorted alike.** -/
theorem classify_perm (h : s.Shuffled s') (hkeys : ∀ t ∈ triggers, t ∈ s.nodes.keys)
    (htriggers : triggers.Perm triggers') (hbranching : branching.Perm branching')
    {r r' : Reachability} (hr : s.classify triggers branching = .ok r)
    (hr' : s'.classify triggers' branching' = .ok r') :
    r.triggers.Perm r'.triggers ∧ r.unreachable.Perm r'.unreachable ∧
      r.conditional.Perm r'.conditional := by
  have hkeys' : ∀ t ∈ triggers', t ∈ s'.nodes.keys := by
    intro t ht
    exact h.keys.mem_iff.mp (hkeys t (htriggers.mem_iff.mpr ht))
  obtain ⟨sorted, heq, rfl, hsorts⟩ := h.consistent.classify_spec branching hkeys
  obtain ⟨sorted', heq', rfl, hsorts'⟩ := h.consistent'.classify_spec branching' hkeys'
  rw [hr] at heq
  rw [hr'] at heq'
  cases heq
  cases heq'
  have hnone : r.triggers = [] ↔ r'.triggers = [] := by
    rw [← List.length_eq_zero_iff, htriggers.length_eq, List.length_eq_zero_iff]
  refine ⟨htriggers, ?_, ?_⟩
  · rw [List.perm_ext_iff_of_nodup hsorts.unreachable_nodup hsorts'.unreachable_nodup]
    intro id
    rw [hsorts.mem_unreachable_iff, hsorts'.mem_unreachable_iff, h.keys.mem_iff,
      htriggers.mem_iff, h.ledTo_iff htriggers, h.fedByBranchesAlone_iff hbranching, ne_eq, hnone]
  · rw [List.perm_ext_iff_of_nodup hsorts.conditional_nodup hsorts'.conditional_nodup]
    intro id
    rw [hsorts.mem_conditional_iff, hsorts'.mem_conditional_iff, h.keys.mem_iff,
      htriggers.mem_iff, h.ledTo_iff htriggers, h.ledToFreely_iff htriggers hbranching,
      h.fedByBranchesAlone_iff hbranching, ne_eq, hnone]

end Shuffled

/-! ## 5. Reading in another order -/

/-- The fate of an edge whose id is new goes by which ids are nodes, not by their order. -/
theorem EdgeFate.alone_eq_of_perm {nodes nodes' : List Text} (h : nodes.Perm nodes') (e : Edge) :
    EdgeFate.alone nodes e = EdgeFate.alone nodes' e := by
  unfold EdgeFate.alone
  simp only [h.mem_iff]

/-- **Entries in two orders make one graph**, where no id comes twice, and say the same about the
input. -/
theorem shuffled_ofReadings {nodes nodes' : List Node} {edges edges' : List Edge}
    (hnodes : nodes.Perm nodes') (hedges : edges.Perm edges') (hnodeIds : (nodes.map Node.id).Nodup)
    (hedgeIds : (edges.map Edge.id).Nodup) :
    (ofReadings (nodes.map .node) (edges.map some)).Shuffled
        (ofReadings (nodes'.map .node) (edges'.map some)) ∧
      (ofReadings (nodes.map .node) (edges.map some)).findings.Perm
        (ofReadings (nodes'.map .node) (edges'.map some)).findings := by
  have hbooks := balanced_ofReadings (nodes.map .node) (edges.map some)
  have hbooks' := balanced_ofReadings (nodes'.map .node) (edges'.map some)
  have hconsistent := consistent_ofReadings (nodes.map .node) (edges.map some)
  have hconsistent' := consistent_ofReadings (nodes'.map .node) (edges'.map some)
  generalize ofReadings (nodes.map .node) (edges.map some) = s at hbooks hconsistent ⊢
  generalize ofReadings (nodes'.map .node) (edges'.map some) = s' at hbooks' hconsistent' ⊢
  obtain ⟨hlist, hkept, hfindings⟩ := hbooks.of_distinct hnodeIds hedgeIds
  obtain ⟨hlist', hkept', hfindings'⟩ := hbooks'.of_distinct
    ((hnodes.map Node.id).nodup_iff.mp hnodeIds) ((hedges.map Edge.id).nodup_iff.mp hedgeIds)
  have hkeys : s.nodes.keys.Perm s'.nodes.keys := by
    rw [← hconsistent.map_id_nodeList, ← hconsistent'.map_id_nodeList, hlist, hlist']
    exact hnodes.map Node.id
  have halone := funext (EdgeFate.alone_eq_of_perm hkeys)
  constructor
  · constructor
    · exact hconsistent
    · exact hconsistent'
    · rw [hlist, hlist']
      exact hnodes
    · rw [hkept, hkept', halone]
      exact hedges.filterMap _
  · rw [hfindings, hfindings', halone]
    refine (hnodes.flatMap fun n _ => .refl _).append ?_
    exact hedges.flatMap fun e _ => .refl _

end Snapshot

end WorkflowGate
