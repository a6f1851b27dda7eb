/-
# What a run can reach

The breadth-first search reaches exactly the nodes to which a walk leads that leaves only nodes whose
steps are followed (`Reach.search_spec`).  The analysis searches twice: once leaving any node, once
leaving no branching one.  `Reachability.Sorts` says in terms of walks how it sorts the nodes.

* `Consistent.classify_spec`: so it sorts them, whichever nodes are triggers and branching;
* `analyzeReachability_sorts`: and so does a run, by the categories to which the kinds resolve.
-/
import WorkflowGate.Graph.Reachability
import WorkflowGate.Proofs.Graph.Walk
import WorkflowGate.Proofs.Resolution

namespace WorkflowGate

/-- A walk leads from a node to a node and leaves only nodes that satisfy the test. -/
def Follows (edges : List Edge) (follow : Text → Bool) (a b : Text) : Prop :=
  ∃ route, Walk edges a route b ∧ ∀ e ∈ route, follow e.source = true

namespace Follows

variable {edges : List Edge} {follow : Text → Bool} {a b : Text}

theorem refl (a : Text) : Follows edges follow a a :=
  ⟨[], .nil a, fun _ he => nomatch he⟩

/-- One more edge in front. -/
theorem head {e : Edge} (he : e ∈ edges) (hfollow : follow e.source = true)
    (h : Follows edges follow e.target b) : Follows edges follow e.source b := by
  obtain ⟨route, hwalk, hroute⟩ := h
  refine ⟨e :: route, .cons he hwalk, fun d hd => ?_⟩
  rcases List.mem_cons.mp hd with rfl | hd
  · exact hfollow
  · exact hroute d hd

/-- What every edge hands on that leaves a node to be followed, such a walk hands on. -/
theorem carries {P : Text → Prop}
    (hedge : ∀ e ∈ edges, follow e.source = true → P e.source → P e.target)
    (h : Follows edges follow a b) : P a → P b := by
  obtain ⟨route, hwalk, hroute⟩ := h
  induction hwalk with
  | nil a => exact id
  | @cons e route b he _ ih =>
    intro ha
    exact ih (fun d hd => hroute d (List.mem_cons_of_mem _ hd))
      (hedge e he (hroute e List.mem_cons_self) ha)

end Follows

/-! ## 1. Breadth-first search -/

namespace Reach

variable {adjacency : OrderedMap Text (List Step)} {edges : List Edge}

/-- What a search makes of the nodes it has reached and those in its queue.  It keeps them all, it
adds only what can be followed from the queue, and it leaves no node to be followed without the nodes
to which its edges lead. -/
structure Completes (edges : List Edge) (follow : Text → Bool) (reached queue result : List Text) :
    Prop where
  keeps : ∀ x ∈ reached, x ∈ result
  queued : ∀ x ∈ queue, x ∈ result
  sound : ∀ x ∈ result, x ∈ reached ∨ ∃ q ∈ queue, Follows edges follow q x
  closed : ∀ e ∈ edges, e.source ∈ result → follow e.source = true → e.target ∈ result

/-- Every edge from a node that has been reached and is to be followed leads to a node that has been
reached or is in the queue. -/
def Keeps (edges : List Edge) (follow : Text → Bool) (reached queue : List Text) : Prop :=
  ∀ e ∈ edges, e.source ∈ reached → follow e.source = true → e.target ∈ reached ∨ e.target ∈ queue

variable {follow : Text → Bool} {reached queue result more : List Text} {id : Text}

/-- Passing over a node that has been reached. -/
theorem Keeps.pass (hid : id ∈ reached) (h : Keeps edges follow reached (id :: queue)) :
    Keeps edges follow reached queue := by
  intro e he hsource hfollow
  rcases h e he hsource hfollow with hold | hnew
  · exact .inl hold
  · rcases List.mem_cons.mp hnew with htarget | hnew
    · exact .inl (htarget ▸ hid)
    · exact .inr hnew

/-- Visiting a node, whose edges lead to nodes that go to the end of the queue. -/
theorem Keeps.visit
    (hmore : ∀ e ∈ edges, e.source = id → follow id = true → e.target ∈ more)
    (h : Keeps edges follow reached (id :: queue)) :
    Keeps edges follow (id :: reached) (queue ++ more) := by
  intro e he hsource hfollow
  rcases List.mem_cons.mp hsource with hsame | hsource
  · exact .inr (List.mem_append_right _ (hmore e he hsame (hsame ▸ hfollow)))
  · rcases h e he hsource hfollow with hold | hnew
    · exact .inl (List.mem_cons_of_mem _ hold)
    · rcases List.mem_cons.mp hnew with htarget | hnew
      · exact .inl (htarget ▸ List.mem_cons_self)
      · exact .inr (List.mem_append_left _ hnew)

theorem Completes.pass (hid : id ∈ reached) (h : Completes edges follow reached queue result) :
    Completes edges follow reached (id :: queue) result := by
  refine ⟨h.keeps, ?_, ?_, h.closed⟩
  · intro x hx
    rcases List.mem_cons.mp hx with rfl | hx
    · exact h.keeps x hid
    · exact h.queued x hx
  · intro x hx
    exact (h.sound x hx).imp_right fun ⟨q, hq, hf⟩ => ⟨q, List.mem_cons_of_mem _ hq, hf⟩

theorem Completes.visit (hmore : ∀ x ∈ more, ∃ e ∈ edges, e.source = id ∧ e.target = x)
    (hfollow : more ≠ [] → follow id = true)
    (h : Completes edges follow (id :: reached) (queue ++ more) result) :
    Completes edges follow reached (id :: queue) result := by
  refine ⟨fun x hx => h.keeps x (List.mem_cons_of_mem _ hx), ?_, ?_, h.closed⟩
  · intro x hx
    rcases List.mem_cons.mp hx with rfl | hx
    · exact h.keeps x List.mem_cons_self
    · exact h.queued x (List.mem_append_left _ hx)
  · intro x hx
    rcases h.sound x hx with hx | ⟨q, hq, hf⟩
    · rcases List.mem_cons.mp hx with rfl | hx
      · exact .inr ⟨x, List.mem_cons_self, .refl x⟩
      · exact .inl hx
    · rcases List.mem_append.mp hq with hq | hq
      · exact .inr ⟨q, List.mem_cons_of_mem _ hq, hf⟩
      · have hid := hfollow (List.ne_nil_of_mem hq)
        obtain ⟨e, he, rfl, rfl⟩ := hmore q hq
        exact .inr ⟨e.source, List.mem_cons_self, .head he hid hf⟩

/-- **A search over an index completes what it begins with.** -/
theorem search_completes (hindex : Indexes adjacency edges) (follow : Text → Bool)
    {reached queue : List Text} (hqueue : ∀ q ∈ queue, q ∈ adjacency.keys)
    (hkeeps : Keeps edges follow reached queue) :
    ∃ result, search adjacency follow reached queue = .ok result ∧
      Completes edges follow reached queue result := by
  fun_induction search adjacency follow reached queue with
  | case1 reached =>
    refine ⟨reached, rfl, fun x hx => hx, fun x hx => (nomatch hx), fun x hx => .inl hx, ?_⟩
    intro e he hsource hfollow
    exact (hkeeps e he hsource hfollow).resolve_right List.not_mem_nil
  | case2 reached id queue hr ih =>
    have hid : id ∈ reached := List.contains_iff_mem.mp hr
    obtain ⟨result, heq, h⟩ :=
      ih (fun q hq => hqueue q (List.mem_cons_of_mem _ hq)) (hkeeps.pass hid)
    exact ⟨result, heq, h.pass hid⟩
  | case3 reached id queue hr hfollow hfind =>
    obtain ⟨steps, hsteps⟩ := hindex.find?_isSome (hqueue id List.mem_cons_self)
    rw [hsteps] at hfind
    cases hfind
  | case4 reached id queue hr hfollow steps hfind ih =>
    have htargets : ∀ x ∈ steps.map (·.target), ∃ e ∈ edges, e.source = id ∧ e.target = x := by
      intro x hx
      obtain ⟨step, hstep, rfl⟩ := List.mem_map.mp hx
      obtain ⟨e, he, hsource, rfl⟩ := hindex.exists_edge hfind hstep
      exact ⟨e, he, hsource, rfl⟩
    have hqueue' : ∀ q ∈ queue ++ steps.map (·.target), q ∈ adjacency.keys := by
      intro q hq
      rcases List.mem_append.mp hq with hq | hq
      · exact hqueue q (List.mem_cons_of_mem _ hq)
      · obtain ⟨e, he, -, rfl⟩ := htargets q hq
        exact (hindex.ends e he).2
    have hlisted : ∀ e ∈ edges, e.source = id → follow id = true →
        e.target ∈ steps.map (·.target) := by
      rintro e he rfl -
      exact List.mem_map.mpr ⟨e.step, hindex.step_mem he hfind, rfl⟩
    obtain ⟨result, heq, h⟩ := ih hqueue' (hkeeps.visit hlisted)
    exact ⟨result, heq, h.visit htargets fun _ => hfollow⟩
  | case5 reached id queue hr hfollow ih =>
    have hvisited : Keeps edges follow (id :: reached) (queue ++ []) :=
      hkeeps.visit fun e _ _ hf => absurd hf hfollow
    rw [List.append_nil] at hvisited
    obtain ⟨result, heq, h⟩ := ih (fun q hq => hqueue q (List.mem_cons_of_mem _ hq)) hvisited
    rw [← List.append_nil queue] at h
    exact ⟨result, heq, h.visit (fun x hx => absurd hx List.not_mem_nil) fun hne => absurd rfl hne⟩

/-- **The search reaches the nodes to which a walk leads from a seed that leaves only nodes to be
followed**, and no other. -/
theorem search_spec (hindex : Indexes adjacency edges) (follow : Text → Bool) {seeds : List Text}
    (hseeds : ∀ q ∈ seeds, q ∈ adjacency.keys) :
    ∃ result, search adjacency follow [] seeds = .ok result ∧
      ∀ x, x ∈ result ↔ ∃ q ∈ seeds, Follows edges follow q x := by
  obtain ⟨result, heq, h⟩ := search_completes hindex follow hseeds
    fun e _ hsource => absurd hsource List.not_mem_nil
  refine ⟨result, heq, fun x => ⟨fun hx => ?_, ?_⟩⟩
  · exact (h.sound x hx).resolve_left List.not_mem_nil
  · rintro ⟨q, hq, hf⟩
    exact hf.carries (fun e he hfollow hsource => h.closed e he hsource hfollow) (h.queued q hq)

end Reach

/-! ## 2. Sorting the nodes -/

namespace Snapshot

/-- Some walk leads from a trigger to the node. -/
def LedTo (s : Snapshot) (triggers : List Text) (id : Text) : Prop :=
  ∃ t ∈ triggers, Reaches s.edges t id

/-- Some walk leads from a trigger to the node and leaves no branching node. -/
def LedToFreely (s : Snapshot) (triggers : List Text) (branching : Text → Prop) (id : Text) : Prop :=
  ∃ t ∈ triggers, ∃ route, Walk s.edges t route id ∧ ∀ e ∈ route, ¬ branching e.source

/-- Edges enter the node, and all of them come from branching nodes. -/
def FedByBranchesAlone (s : Snapshot) (branching : Text → Prop) (id : Text) : Prop :=
  (∃ e ∈ s.edges, e.target = id) ∧ ∀ e ∈ s.edges, e.target = id → branching e.source

end Snapshot

/-- **How the nodes are sorted.**  The nodes that a walk leaves are the sources of its edges.  Where
there is a trigger, a node that is none runs under conditions when it is led to, but only through
branching nodes, or when it is not and branching nodes alone feed it; nothing leads to the others
that are not led to. -/
structure Reachability.Sorts (s : Snapshot) (branching : Text → Prop) (r : Reachability) : Prop where
  without_triggers : r.triggers = [] → r.unreachable = s.nodes.keys ∧ r.conditional = []
  conditional_iff : r.triggers ≠ [] → ∀ id ∈ s.nodes.keys, id ∉ r.triggers →
    (id ∈ r.conditional ↔
      (s.LedTo r.triggers id ∧
        ∀ t ∈ r.triggers, ∀ route, Walk s.edges t route id → ∃ e ∈ route, branching e.source) ∨
      (¬ s.LedTo r.triggers id ∧ s.FedByBranchesAlone branching id))
  unreachable_iff : r.triggers ≠ [] → ∀ id ∈ s.nodes.keys, id ∉ r.triggers →
    (id ∈ r.unreachable ↔
      ¬ s.LedTo r.triggers id ∧ ¬ s.FedByBranchesAlone branching id)
  neither_iff : r.triggers ≠ [] → ∀ id ∈ s.nodes.keys, id ∉ r.triggers →
    (id ∉ r.conditional ∧ id ∉ r.unreachable ↔ s.LedToFreely r.triggers branching id)
  conditional_sublist : r.conditional.Sublist s.nodes.keys
  unreachable_sublist : r.unreachable.Sublist s.nodes.keys
  conditional_nodup : r.conditional.Nodup
  unreachable_nodup : r.unreachable.Nodup
  disjoint : ∀ id ∈ r.conditional, id ∉ r.unreachable
  no_trigger : ∀ id ∈ r.triggers, id ∉ r.conditional ∧ id ∉ r.unreachable

namespace Snapshot

theorem fedByBranches_iff {s : Snapshot} (h : s.Consistent) (branching : List Text) {id : Text}
    (hid : id ∈ s.nodes.keys) :
    s.fedByBranches branching id = true ↔ s.FedByBranchesAlone (· ∈ branching) id := by
  have hmem : ∀ e, e ∈ s.edgesTo id ↔ e ∈ s.edges ∧ e.target = id := by
    intro e
    rw [edgesTo, h.incoming_eq id hid, Option.getD_some, entering, List.mem_filter, decide_eq_true_iff]
  unfold fedByBranches FedByBranchesAlone
  simp only [Bool.and_eq_true, Bool.not_eq_true', List.isEmpty_eq_false_iff_exists_mem,
    List.all_eq_true, List.contains_iff_mem, hmem]
  exact and_congr_right fun _ => ⟨fun hall e he ht => hall e ⟨he, ht⟩, fun hall e he => hall e he.1 he.2⟩

theorem LedToFreely.ledTo {s : Snapshot} {triggers : List Text} {branching : Text → Prop} {id : Text}
    (h : s.LedToFreely triggers branching id) : s.LedTo triggers id := by
  obtain ⟨t, ht, route, hwalk, -⟩ := h
  exact ⟨t, ht, route, hwalk⟩

/-- A node is led to freely unless every walk to it leaves a branching node. -/
theorem not_ledToFreely_iff {s : Snapshot} {triggers : List Text} {branching : Text → Prop}
    {id : Text} :
    ¬ s.LedToFreely triggers branching id ↔
      ∀ t ∈ triggers, ∀ route, Walk s.edges t route id → ∃ e ∈ route, branching e.source := by
  constructor
  · intro hno t ht route hwalk
    by_contra hfree
    exact hno ⟨t, ht, route, hwalk, fun e he hb => hfree ⟨e, he, hb⟩⟩
  · rintro hall ⟨t, ht, route, hwalk, hfree⟩
    obtain ⟨e, he, hb⟩ := hall t ht route hwalk
    exact hfree e he hb

/-- Leaving any node, the search reaches what is led to. -/
theorem Consistent.reachedFrom_any {s : Snapshot} (h : s.Consistent) {triggers : List Text}
    (htriggers : ∀ t ∈ triggers, t ∈ s.nodes.keys) :
    ∃ reached, s.reachedFrom triggers (fun _ => true) = .ok reached ∧
      ∀ id, id ∈ reached ↔ s.LedTo triggers id := by
  obtain ⟨reached, heq, hmem⟩ :=
    Reach.search_spec h.indexes_adjacency (fun _ => true) (h.adjacency_keys ▸ htriggers)
  refine ⟨reached, heq, fun id => (hmem id).trans ?_⟩
  refine exists_congr fun t => and_congr_right fun _ => exists_congr fun route => ?_
  exact and_iff_left fun e _ => rfl

/-- Leaving no branching node, the search reaches what is led to freely. -/
theorem Consistent.reachedFrom_free {s : Snapshot} (h : s.Consistent) {triggers : List Text}
    (branching : List Text) (htriggers : ∀ t ∈ triggers, t ∈ s.nodes.keys) :
    ∃ reached, s.reachedFrom triggers (fun id => !branching.contains id) = .ok reached ∧
      ∀ id, id ∈ reached ↔ s.LedToFreely triggers (· ∈ branching) id := by
  obtain ⟨reached, heq, hmem⟩ := Reach.search_spec h.indexes_adjacency
    (fun id => !branching.contains id) (h.adjacency_keys ▸ htriggers)
  refine ⟨reached, heq, fun id => (hmem id).trans ?_⟩
  simp only [Follows, LedToFreely, Bool.not_eq_true', List.contains_eq_mem, decide_eq_false_iff_not]

/-- **The nodes that are not led to freely are split in two**: those led to at all or fed by branches
alone, and the others. -/
theorem sorts_of_split {s : Snapshot} {triggers : List Text}
    {branching : Text → Prop} (hsome : triggers ≠ []) {doubtful : List Text} {under : Text → Bool}
    (hsub : doubtful.Sublist s.nodes.keys)
    (hmem : ∀ id ∈ s.nodes.keys,
      id ∈ doubtful ↔ id ∉ triggers ∧ ¬ s.LedToFreely triggers branching id)
    (hunder : ∀ id ∈ s.nodes.keys,
      under id = true ↔ s.LedTo triggers id ∨ s.FedByBranchesAlone branching id) :
    Reachability.Sorts s branching
      ⟨triggers, doubtful.filter fun id => !under id, doubtful.filter under⟩ := by
  constructor
  case without_triggers => exact fun hempty => absurd hempty hsome
  case conditional_iff =>
    intro _ id hid ht
    rw [List.mem_filter, hmem id hid, hunder id hid, ← not_ledToFreely_iff]
    constructor
    · rintro ⟨⟨-, hno⟩, hled | hfed⟩
      · exact .inl ⟨hled, hno⟩
      · by_cases hled : s.LedTo triggers id
        · exact .inl ⟨hled, hno⟩
        · exact .inr ⟨hled, hfed⟩
    · rintro (⟨hled, hno⟩ | ⟨hled, hfed⟩)
      · exact ⟨⟨ht, hno⟩, .inl hled⟩
      · exact ⟨⟨ht, fun hfree => hled hfree.ledTo⟩, .inr hfed⟩
  case unreachable_iff =>
    intro _ id hid ht
    rw [List.mem_filter, hmem id hid, Bool.not_eq_true', ← Bool.not_eq_true, hunder id hid, not_or]
    exact ⟨And.right, fun hno => ⟨⟨ht, fun hfree => hno.1 hfree.ledTo⟩, hno⟩⟩
  case neither_iff =>
    intro _ id hid ht
    rw [List.mem_filter, List.mem_filter, hmem id hid]
    by_cases hfree : s.LedToFreely triggers branching id
    · simp [hfree]
    · cases under id <;> simp [hfree, ht]
  case conditional_sublist => exact List.filter_sublist.trans hsub
  case unreachable_sublist => exact List.filter_sublist.trans hsub
  case conditional_nodup => exact (List.filter_sublist.trans hsub).nodup s.nodes.nodup_keys
  case unreachable_nodup => exact (List.filter_sublist.trans hsub).nodup s.nodes.nodup_keys
  case disjoint =>
    intro id hconditional hunreachable
    have hyes := (List.mem_filter.mp hconditional).2
    have hno := (List.mem_filter.mp hunreachable).2
    rw [hyes] at hno
    cases hno
  case no_trigger =>
    intro id ht
    have hsure : id ∉ doubtful := fun hd => ((hmem id (hsub.subset hd)).mp hd).1 ht
    exact ⟨fun hc => hsure (List.mem_filter.mp hc).1, fun hu => hsure (List.mem_filter.mp hu).1⟩

/-- Without a trigger nothing is reached. -/
theorem sorts_without_triggers (s : Snapshot) (branching : Text → Prop) :
    Reachability.Sorts s branching { unreachable := s.nodes.keys } where
  without_triggers _ := ⟨rfl, rfl⟩
  conditional_iff hsome := absurd rfl hsome
  unreachable_iff hsome := absurd rfl hsome
  neither_iff hsome := absurd rfl hsome
  conditional_sublist := List.nil_sublist _
  unreachable_sublist := List.Sublist.refl _
  conditional_nodup := List.nodup_nil
  unreachable_nodup := s.nodes.nodup_keys
  disjoint _ hid := absurd hid List.not_mem_nil
  no_trigger _ hid := absurd hid List.not_mem_nil

/-- **Whichever nodes are triggers and branching, the nodes are sorted.** -/
theorem Consistent.classify_spec {s : Snapshot} (h : s.Consistent) {triggers : List Text}
    (branching : List Text) (htriggers : ∀ t ∈ triggers, t ∈ s.nodes.keys) :
    ∃ r, s.classify triggers branching = .ok r ∧ r.triggers = triggers ∧
      r.Sorts s (· ∈ branching) := by
  by_cases hnone : triggers = []
  · subst hnone
    exact ⟨_, s.classify_without_triggers branching, rfl, sorts_without_triggers s _⟩
  · obtain ⟨always, halways, hmemAlways⟩ := h.reachedFrom_free branching htriggers
    obtain ⟨anywhere, hanywhere, hmemAnywhere⟩ := h.reachedFrom_any htriggers
    have hisEmpty : triggers.isEmpty = false := by simpa using hnone
    let candidates := s.nodes.keys.filter fun id => !triggers.contains id
    let doubtful := candidates.filter fun id => !always.contains id
    let under (id : Text) : Bool := anywhere.contains id || s.fedByBranches branching id
    have hclassify : s.classify triggers branching =
        .ok ⟨triggers, doubtful.filter fun id => !under id, doubtful.filter under⟩ := by
      unfold classify
      simp only [hisEmpty, Bool.false_eq_true, if_false, halways, hanywhere]
      rfl
    refine ⟨_, hclassify, rfl, sorts_of_split hnone ?_ ?_ ?_⟩
    · exact List.filter_sublist.trans List.filter_sublist
    · intro id hid
      simp [doubtful, candidates, hid, hmemAlways, and_comm]
    · intro id hid
      simp only [under, Bool.or_eq_true, List.contains_iff_mem, hmemAnywhere,
        fedByBranches_iff h branching hid]

/-! ## 3. Runs -/

/-- The nodes whose kinds have a category, in order. -/
def nodesOf (s : Snapshot) (categoryOf : Text → KindCategory) (category : KindCategory) : List Text :=
  (s.nodeList.filter fun n => categoryOf n.kind = category).map Node.id

theorem Consistent.mem_keys_of_mem_nodesOf {s : Snapshot} (h : s.Consistent)
    {categoryOf : Text → KindCategory} {category : KindCategory} {id : Text}
    (hid : id ∈ s.nodesOf categoryOf category) : id ∈ s.nodes.keys := by
  obtain ⟨n, hn, rfl⟩ := List.mem_map.mp hid
  obtain ⟨entry, hentry, rfl⟩ := List.mem_map.mp (List.mem_filter.mp hn).1
  rw [h.id_of_entry entry hentry]
  exact List.mem_map.mpr ⟨entry, hentry, rfl⟩

/-- What sorting out the nodes of a category leaves. -/
theorem execute_map_filterM {s : Snapshot} {st st' : RunState} {kept : List Node}
    {test : Node → Run Bool} (h : (s.nodeList.filterM test).execute st = (.ok kept, st')) :
    ((·.map Node.id) <$> s.nodeList.filterM test : Run (List Text)).execute st =
      (.ok (kept.map Node.id), st') := by
  rw [Run.execute_map, h]
  rfl

/-- The triggers and the branching nodes, each by the categories that are kept from then on. -/
theorem exists_execute_findTriggers (s : Snapshot) {st : RunState} (h : st.resolver.NeverFails) :
    ∃ st', s.findTriggers.execute st = (.ok (s.nodesOf st'.resolver.category .trigger), st') ∧
      st.resolver.Extends st'.resolver ∧ ∀ n ∈ s.nodeList, st'.resolver.Settled n.kind := by
  obtain ⟨st', hrun, hextends, hsettled⟩ :=
    Run.exists_execute_filterM Node.kind .trigger s.nodeList h
  exact ⟨st', execute_map_filterM hrun, hextends, hsettled⟩

theorem exists_execute_findBranching (s : Snapshot) {st : RunState} (h : st.resolver.NeverFails) :
    ∃ st', s.findBranching.execute st =
        (.ok (s.nodesOf st'.resolver.category .controlFlow), st') ∧
      st.resolver.Extends st'.resolver ∧ ∀ n ∈ s.nodeList, st'.resolver.Settled n.kind := by
  obtain ⟨st', hrun, hextends, hsettled⟩ :=
    Run.exists_execute_filterM Node.kind .controlFlow s.nodeList h
  exact ⟨st', execute_map_filterM hrun, hextends, hsettled⟩

/-- **A run sorts the nodes by the categories to which their kinds resolve.**  Where the lookup does
not fail there is a report; the categories are those that the resolver keeps, so asking it again
gives them again. -/
theorem analyzeReachability_sorts {nodes : Batch Node} {edges : Batch Edge} {s : Snapshot}
    (h : ofBatches nodes edges = .ok s) {st : RunState} (hload : st.resolver.NeverFails) :
    ∃ report st' category, s.analyzeReachability.execute st = (.ok report, st') ∧
      st.resolver.Extends st'.resolver ∧
      (∀ n ∈ s.nodeList, (Run.categoryOf n.kind).execute st' = (.ok (category n.kind), st')) ∧
      report.triggers = s.nodesOf category .trigger ∧
      report.Sorts s (· ∈ s.nodesOf category .controlFlow) := by
  have hconsistent := consistent_of_ofBatches h
  obtain ⟨st₁, htriggers, hextends₁, hsettled₁⟩ := s.exists_execute_findTriggers hload
  unfold analyzeReachability
  simp only [Run.execute_bind, htriggers]
  by_cases hnone : s.nodesOf st₁.resolver.category .trigger = []
  · refine ⟨{ unreachable := s.nodes.keys }, st₁, st₁.resolver.category, ?_, hextends₁,
      fun n hn => Run.execute_categoryOf_of_settled (hsettled₁ n hn), hnone.symm,
      sorts_without_triggers _ _⟩
    simp only [hnone, List.isEmpty_nil, if_true, classify_without_triggers]
    rfl
  · obtain ⟨st₂, hbranching, hextends₂, hsettled₂⟩ :=
      s.exists_execute_findBranching (hextends₁.neverFails hload)
    -- the categories of the triggers are those of the branching nodes
    have hsame : s.nodesOf st₂.resolver.category .trigger =
        s.nodesOf st₁.resolver.category .trigger := by
      refine congrArg (List.map Node.id) (List.filter_congr fun n hn => ?_)
      rw [hextends₂.category_eq (hsettled₁ n hn)]
    obtain ⟨report, hclassify, hreported, hsorts⟩ :=
      hconsistent.classify_spec (s.nodesOf st₂.resolver.category .controlFlow)
        fun t ht => hconsistent.mem_keys_of_mem_nodesOf
          (ht : t ∈ s.nodesOf st₂.resolver.category .trigger)
    rw [hsame] at hclassify
    have hisEmpty : (s.nodesOf st₁.resolver.category .trigger).isEmpty = false := by
      simpa using hnone
    refine ⟨report, ⟨st₂.resolver, st₂.log ++ [reachabilityRecord report]⟩,
      st₂.resolver.category, ?_, hextends₁.trans hextends₂,
      fun n hn => Run.execute_categoryOf_of_settled (hsettled₂ n hn), hreported, hsorts⟩
    simp only [hisEmpty, Bool.false_eq_true, if_false, Run.execute_bind, hbranching, hclassify]
    rfl

/-- A trigger, a branching node behind it, and a node behind that. -/
def branchCanvas : Batch Node × Batch Edge :=
  (.entries [.built ⟨"start", "manual_trigger", [], none, none⟩, .built ⟨"check", "if", [], none, none⟩,
      .built ⟨"store", "", [], none, none⟩],
    .entries [.built ⟨"1", "start", "check", none, none⟩,
      .built ⟨"2", "check", "store", some "true", none⟩])

/-- The graph of that canvas. -/
def branchSnapshot : Snapshot :=
  ofReadings [.node ⟨"start", "manual_trigger", [], none, none⟩, .node ⟨"check", "if", [], none, none⟩,
      .node ⟨"store", "", [], none, none⟩]
    [some ⟨"1", "start", "check", none, none⟩, some ⟨"2", "check", "store", some "true", none⟩]

/-- A registry answers every kind, so the nodes of that canvas are sorted. -/
theorem analyzeReachability_sorts_branch :
    ofBatches branchCanvas.1 branchCanvas.2 = .ok branchSnapshot ∧
      (Run.begin .builtin none).resolver.NeverFails ∧
      ∃ report st' category,
        branchSnapshot.analyzeReachability.execute (Run.begin .builtin none) = (.ok report, st') ∧
        (∀ n ∈ branchSnapshot.nodeList,
          (Run.categoryOf n.kind).execute st' = (.ok (category n.kind), st')) ∧
        report.triggers = branchSnapshot.nodesOf category .trigger ∧
        report.Sorts branchSnapshot (· ∈ branchSnapshot.nodesOf category .controlFlow) := by
  have hsnapshot : ofBatches branchCanvas.1 branchCanvas.2 = .ok branchSnapshot := rfl
  have hload : (Run.begin .builtin none).resolver.NeverFails := fun _ _ => ⟨_, rfl⟩
  obtain ⟨report, st', category, hrun, -, hcategory, htriggers, hsorts⟩ :=
    analyzeReachability_sorts hsnapshot hload
  exact ⟨hsnapshot, hload, report, st', category, hrun, hcategory, htriggers, hsorts⟩

end Snapshot

end WorkflowGate
