/-
# What a report says of connections

Two analyses sort the nodes of a canvas: one by the walks from triggers, one by the edges at a node and
by its group.  They are told apart in a third place, which leaves orphans out of the nodes that nothing
leads to, but not out of those that run under conditions.  That no node is reported twice all the same
is a fact about graphs: no walk leads to a node without edges, and nothing feeds it.

* `Snapshot.Isolated.not_ledTo`, `Snapshot.Isolated.not_fedByBranchesAlone`: that fact;
* `Snapshot.map_code_connections`: **what the two analyses together say of one node**;
* `Report.Connects`: what a report says of the triggers, the orphans and the nodes that do not always
  run;
* `Gate.connects_of_report`: so does every report on a canvas, for any registry and lookup.
-/
import WorkflowGate.Proofs.Reporter
import WorkflowGate.Proofs.Steady

namespace WorkflowGate

open Result Run

/-! ## 1. Nodes without edges -/

namespace Snapshot

variable {s : Snapshot} {id : Text}

/-- No edge begins or ends at the node. -/
def Isolated (s : Snapshot) (id : Text) : Prop := ∀ e ∈ s.edges, e.source ≠ id ∧ e.target ≠ id

theorem isConnected_eq_false_iff : s.isConnected id = false ↔ s.Isolated id := by
  simp [isConnected, Isolated]

/-- **No walk leads to a node without edges**, but the one that stays there. -/
theorem Isolated.not_ledTo (h : s.Isolated id) {triggers : List Text} (hid : id ∉ triggers) :
    ¬ s.LedTo triggers id := by
  rintro ⟨t, ht, route, hwalk⟩
  have hne : t ≠ id := fun heq => hid (heq ▸ ht)
  have hpath : Follows s.edges (fun _ => true) t id := ⟨route, hwalk, fun _ _ => rfl⟩
  -- no edge leads from elsewhere to the node
  exact hpath.carries (P := (· ≠ id)) (fun e he _ _ => (h e he).2) hne rfl

/-- **Nothing feeds a node without edges.** -/
theorem Isolated.not_fedByBranchesAlone (h : s.Isolated id) (branching : Text → Prop) :
    ¬ s.FedByBranchesAlone branching id := by
  rintro ⟨⟨e, he, htarget⟩, -⟩
  exact (h e he).2 htarget

/-! ## 2. One node -/

variable {category : Text → KindCategory} {n : Node}

theorem Consistent.id_mem_nodesOf_iff (hs : s.Consistent) (hn : n ∈ s.nodeList) {c : KindCategory} :
    n.id ∈ s.nodesOf category c ↔ category n.kind = c := by
  rw [nodesOf, hs.id_mem_map_filter_iff hn, decide_eq_true_iff]

/-- An orphan is no trigger, has no edges and is in no group. -/
theorem isOrphan_iff : s.isOrphan category n = true ↔
    s.Isolated n.id ∧ category n.kind ≠ .trigger ∧ n.parentId = none := by
  simp [isOrphan, ← isConnected_eq_false_iff]

theorem Consistent.id_mem_orphansOf_iff (hs : s.Consistent) (hn : n ∈ s.nodeList) :
    n.id ∈ s.orphansOf category ↔ s.isOrphan category n = true := by
  rw [orphansOf, hs.id_mem_map_filter_iff hn]

theorem Consistent.nodup_orphansOf (hs : s.Consistent) : (s.orphansOf category).Nodup := by
  have hids : (s.nodeList.map Node.id).Nodup := hs.map_id_nodeList ▸ s.nodes.nodup_keys
  exact (List.filter_sublist.map Node.id).nodup hids

/-- The code under which a node is reported, if it is: an orphan as such, and other nodes as the
analysis of walks sorts them. -/
def verdict? (s : Snapshot) (category : Text → KindCategory) (r : Reachability) (n : Node) :
    Option Code :=
  if s.isOrphan category n then some .orphanNode
  else if r.triggers.isEmpty then none
  else if n.id ∈ r.unreachable then some .unreachableNode
  else if n.id ∈ r.conditional then some .conditionallyReachable
  else none

/-- Of findings on nodes, one for each, those on one node are one or none. -/
theorem filter_nodeId_map {ids : List Text} (h : ids.Nodup) (finding : Text → Finding)
    (hfinding : ∀ id, (finding id).nodeId = some id) (id : Text) :
    (ids.map finding).filter (fun f => f.nodeId = some id) =
      if id ∈ ids then [finding id] else [] := by
  have hsame : ((fun f : Finding => decide (f.nodeId = some id)) ∘ finding) = (· == id) := by
    funext other
    simp [hfinding, beq_eq_decide]
  rw [List.filter_map, hsame, List.filter_beq, h.count]
  split <;> simp

/-- An orphan does not run under conditions. -/
theorem not_mem_conditional_of_isOrphan (hs : s.Consistent) {branching : Text → Prop}
    {r : Reachability} (hr : r.Sorts s branching)
    (htriggers : r.triggers = s.nodesOf category .trigger) (hsome : r.triggers ≠ [])
    (hn : n ∈ s.nodeList) (horphan : s.isOrphan category n = true) : n.id ∉ r.conditional := by
  obtain ⟨hisolated, hkind, -⟩ := isOrphan_iff.mp horphan
  have hkey : n.id ∈ s.nodes.keys := hs.map_id_nodeList ▸ List.mem_map_of_mem hn
  have hnone : n.id ∉ r.triggers := by rwa [htriggers, hs.id_mem_nodesOf_iff hn]
  rw [hr.conditional_iff hsome n.id hkey hnone]
  rintro (⟨hled, -⟩ | ⟨-, hfed⟩)
  · exact hisolated.not_ledTo hnone hled
  · exact hisolated.not_fedByBranchesAlone branching hfed

/-- **What the two analyses together say of one node**: one thing or nothing. -/
theorem map_code_connections (hs : s.Consistent) {branching : Text → Prop} {r : Reachability}
    (hr : r.Sorts s branching) (htriggers : r.triggers = s.nodesOf category .trigger)
    (hn : n ∈ s.nodeList) :
    ((s.reachabilityFindings r (s.orphansOf category) ++ s.orphanFindings (s.orphansOf category)).filter
        fun f => f.nodeId = some n.id).map Finding.code = (s.verdict? category r n).toList := by
  have hmem : n.id ∈ s.orphansOf category ↔ s.isOrphan category n = true := hs.id_mem_orphansOf_iff hn
  have horphans : (s.orphansOf category).Nodup := hs.nodup_orphansOf
  rw [List.filter_append, orphanFindings, filter_nodeId_map horphans _ fun _ => rfl, verdict?]
  simp only [reachabilityFindings]
  cases hempty : r.triggers.isEmpty with
  | true => by_cases horphan : s.isOrphan category n = true <;> simp [horphan, hmem, Finding.warning]
  | false =>
    have hsome : r.triggers ≠ [] := List.isEmpty_eq_false_iff.mp hempty
    have hnodup : (r.unreachable.filter fun id => !(s.orphansOf category).contains id).Nodup :=
      hr.unreachable_nodup.filter _
    simp only [Bool.false_eq_true, if_false, List.filter_append]
    rw [filter_nodeId_map hnodup _ fun _ => rfl,
      filter_nodeId_map hr.conditional_nodup _ fun _ => rfl]
    by_cases horphan : s.isOrphan category n = true
    · have hnot := not_mem_conditional_of_isOrphan hs hr htriggers hsome hn horphan
      simp [horphan, hmem, hnot, Finding.warning]
    · by_cases hunreachable : n.id ∈ r.unreachable
      · have hnot : n.id ∉ r.conditional := fun hc => hr.disjoint n.id hc hunreachable
        simp [horphan, hmem, hunreachable, hnot, Finding.warning]
      · by_cases hconditional : n.id ∈ r.conditional <;>
          simp [horphan, hmem, hunreachable, hconditional, Finding.info]

/-- A node without edges that is neither a trigger nor an orphan is led to by nothing. -/
theorem mem_unreachable_of_isolated (hs : s.Consistent) {branching : Text → Prop}
    {r : Reachability} (hr : r.Sorts s branching)
    (htriggers : r.triggers = s.nodesOf category .trigger) (hsome : r.triggers ≠ [])
    (hn : n ∈ s.nodeList) (hkind : category n.kind ≠ .trigger) (hisolated : s.Isolated n.id) :
    n.id ∈ r.unreachable := by
  have hkey : n.id ∈ s.nodes.keys := hs.map_id_nodeList ▸ List.mem_map_of_mem hn
  have hnone : n.id ∉ r.triggers := by rwa [htriggers, hs.id_mem_nodesOf_iff hn]
  rw [hr.unreachable_iff hsome n.id hkey hnone]
  exact ⟨hisolated.not_ledTo hnone, hisolated.not_fedByBranchesAlone branching⟩

/-- Nothing is said of a trigger. -/
theorem verdict?_of_trigger {branching : Text → Prop} {r : Reachability} (hr : r.Sorts s branching)
    (hs : s.Consistent) (htriggers : r.triggers = s.nodesOf category .trigger) (hn : n ∈ s.nodeList)
    (hkind : category n.kind = .trigger) : s.verdict? category r n = none := by
  have hmem : n.id ∈ r.triggers := by rwa [htriggers, hs.id_mem_nodesOf_iff hn]
  have horphan : s.isOrphan category n = false := by simp [isOrphan, hkind]
  obtain ⟨hconditional, hunreachable⟩ := hr.no_trigger n.id hmem
  simp [verdict?, horphan, hconditional, hunreachable]

/-- A node without edges that is no trigger is an orphan, or in a group and led to by nothing. -/
theorem verdict?_of_isolated (hs : s.Consistent) {branching : Text → Prop} {r : Reachability}
    (hr : r.Sorts s branching) (htriggers : r.triggers = s.nodesOf category .trigger)
    (hsome : r.triggers ≠ []) (hn : n ∈ s.nodeList) (hkind : category n.kind ≠ .trigger)
    (hisolated : s.Isolated n.id) :
    s.verdict? category r n =
      some (if n.parentId = none then .orphanNode else .unreachableNode) := by
  have hunreachable := mem_unreachable_of_isolated hs hr htriggers hsome hn hkind hisolated
  by_cases hgroup : n.parentId = none
  · have horphan : s.isOrphan category n = true := isOrphan_iff.mpr ⟨hisolated, hkind, hgroup⟩
    simp [verdict?, horphan, hgroup]
  · have horphan : s.isOrphan category n = false :=
      Bool.eq_false_iff.mpr fun h => hgroup (isOrphan_iff.mp h).2.2
    simp [verdict?, horphan, hgroup, hsome, hunreachable]

instance (s : Snapshot) (id : Text) : Decidable (s.Isolated id) :=
  inferInstanceAs (Decidable (∀ e ∈ s.edges, e.source ≠ id ∧ e.target ≠ id))

end Snapshot

/-! ## 3. Reports -/

/-- The codes under which a node may be reported for its connections. -/
def connectionCodes : List Code := [.orphanNode, .unreachableNode, .conditionallyReachable]

namespace Report

/-- What a report says of the connections of a node. -/
def onConnections (r : Report) (id : Text) : List Finding :=
  r.all.filter fun f => f.code ∈ connectionCodes ∧ f.nodeId = some id

/-- **What a report says of connections.**  It has an error where there is no trigger, and then leaves
out what does not always run; it reports the orphans, which are the nodes without edges that are neither
triggers nor in a group; and of each node it says one thing at most. -/
structure Connects (r : Report) (s : Snapshot) (category : Text → KindCategory) : Prop where
  without_trigger : (∀ n ∈ s.nodeList, category n.kind ≠ .trigger) →
    (r.coded .noTrigger).map Finding.severity = [.error] ∧ r.coded .unreachableNode = [] ∧
      r.coded .conditionallyReachable = []
  with_trigger : (∃ n ∈ s.nodeList, category n.kind = .trigger) → r.coded .noTrigger = []
  orphans : r.coded .orphanNode = s.orphanFindings
    ((s.nodeList.filter fun n =>
      s.Isolated n.id ∧ category n.kind ≠ .trigger ∧ n.parentId = none).map Node.id)
  at_most_one : ∀ n ∈ s.nodeList, (r.onConnections n.id).length ≤ 1
  on_trigger : ∀ n ∈ s.nodeList, category n.kind = .trigger → r.onConnections n.id = []
  on_isolated : (∃ n ∈ s.nodeList, category n.kind = .trigger) →
    ∀ n ∈ s.nodeList, category n.kind ≠ .trigger → s.Isolated n.id →
      (r.onConnections n.id).map Finding.code =
        [if n.parentId = none then .orphanNode else .unreachableNode]

end Report

namespace Snapshot

variable {s : Snapshot} {category : Text → KindCategory} {n : Node}

/-- Some node is a trigger exactly when the list of triggers is not empty. -/
theorem nodesOf_eq_nil_iff {c : KindCategory} :
    s.nodesOf category c = [] ↔ ∀ n ∈ s.nodeList, category n.kind ≠ c := by
  simp [nodesOf]

/-- Advice on triggers is one error where there are none. -/
theorem severity_of_noTrigger {triggers : List Text} {f : Finding} (hf : f ∈ s.triggerAdvice triggers)
    (hcode : f.code = .noTrigger) : f.severity = .error := by
  simp only [triggerAdvice] at hf
  split at hf
  · rw [List.mem_singleton.mp hf]
    rfl
  · split at hf
    · rw [List.mem_singleton.mp hf] at hcode
      cases hcode
    · cases hf

/-- Where there are triggers it is no such error. -/
theorem filter_noTrigger_of_ne_nil {triggers : List Text} (h : triggers ≠ []) :
    (s.triggerAdvice triggers).filter (fun f => f.code = .noTrigger) = [] := by
  have hempty : triggers.isEmpty = false := by simpa using h
  simp only [triggerAdvice, hempty, Bool.false_eq_true, if_false]
  split <;> rfl

/-- What is said of connections: only nodes that run under conditions are not warned of. -/
theorem severity_of_mem_connections {r : Reachability} {orphans : List Text} {f : Finding}
    (hf : f ∈ s.reachabilityFindings r orphans ++ s.orphanFindings orphans) :
    f.severity = if f.code = .conditionallyReachable then .info else .warning := by
  rcases List.mem_append.mp hf with hf | hf
  · simp only [reachabilityFindings] at hf
    split at hf
    · cases hf
    · rcases List.mem_append.mp hf with hf | hf
      · obtain ⟨id, -, rfl⟩ := List.mem_map.mp hf
        rfl
      · obtain ⟨id, -, rfl⟩ := List.mem_map.mp hf
        rfl
  · obtain ⟨id, -, rfl⟩ := List.mem_map.mp hf
    rfl

theorem code_of_mem_orphanFindings {orphans : List Text} {f : Finding}
    (hf : f ∈ s.orphanFindings orphans) : f.code = .orphanNode := by
  obtain ⟨id, -, rfl⟩ := List.mem_map.mp hf
  rfl

/-- Where there is no trigger only orphans are reported. -/
theorem filter_of_ne_orphanNode {r : Reachability} (h : r.triggers = []) (orphans : List Text)
    {code : Code} (hcode : code ≠ .orphanNode) :
    (s.reachabilityFindings r orphans ++ s.orphanFindings orphans).filter
      (fun f => f.code = code) = [] := by
  have hnone : s.reachabilityFindings r orphans = [] := by
    simp only [reachabilityFindings, h, List.isEmpty_nil, if_true]
  rw [hnone, List.nil_append]
  refine List.filter_eq_nil_iff.mpr fun f hf heq => hcode ?_
  rw [← of_decide_eq_true heq, s.code_of_mem_orphanFindings hf]

/-- The findings on orphans are those of their own analysis. -/
theorem filter_orphanNode (r : Reachability) (orphans : List Text) :
    (s.reachabilityFindings r orphans ++ s.orphanFindings orphans).filter
      (fun f => f.code = .orphanNode) = s.orphanFindings orphans := by
  have hother : (s.reachabilityFindings r orphans).filter (fun f => f.code = .orphanNode) = [] := by
    refine List.filter_eq_nil_iff.mpr fun f hf hcode => ?_
    simp only [reachabilityFindings] at hf
    split at hf
    · cases hf
    · rcases List.mem_append.mp hf with hf | hf
      · obtain ⟨id, -, rfl⟩ := List.mem_map.mp hf
        cases of_decide_eq_true hcode
      · obtain ⟨id, -, rfl⟩ := List.mem_map.mp hf
        cases of_decide_eq_true hcode
  have hown : ∀ f ∈ s.orphanFindings orphans, decide (f.code = .orphanNode) = true :=
    fun f hf => decide_eq_true (s.code_of_mem_orphanFindings hf)
  rw [List.filter_append, hother, List.filter_eq_self.mpr hown, List.nil_append]

end Snapshot

namespace Gate

variable {g : Gate} {o : Options} {mayWait : Bool} {nodes : Batch Node} {edges : Batch Edge}
  {t : Transport} {s : Snapshot} {final : Resolver} {found : Check → List Finding} {report : Report}

/-- The analysis of walks has sorted the nodes. -/
theorem Finds.exists_sorts (h : g.Finds o s final found) (hs : s.Consistent) :
    ∃ r : Reachability, r.triggers = s.nodesOf final.category .trigger ∧
      r.Sorts s (· ∈ s.nodesOf final.category .controlFlow) ∧
      found .connections = s.reachabilityFindings r (s.orphansOf final.category) ++
        s.orphanFindings (s.orphansOf final.category) := by
  obtain ⟨r, hclassify, hfound⟩ := h.connections
  obtain ⟨_, hsorted, htriggers, hsorts⟩ := hs.classify_spec
    (s.nodesOf final.category .controlFlow) fun t ht => hs.mem_keys_of_mem_nodesOf
      (ht : t ∈ s.nodesOf final.category .trigger)
  obtain rfl := Except.ok.inj (hclassify.symm.trans hsorted)
  exact ⟨r, htriggers, hsorts, hfound⟩

/-- What a report says of the connections of a node is what the two analyses say of it. -/
theorem map_code_onConnections (hs : s.Consistent)
    (hown : ∀ check, ∀ f ∈ found check, f.ReportedBy check) {branching : Text → Prop}
    {r : Reachability} (hr : r.Sorts s branching)
    (htriggers : r.triggers = s.nodesOf final.category .trigger)
    (hfound : found .connections = s.reachabilityFindings r (s.orphansOf final.category) ++
      s.orphanFindings (s.orphansOf final.category)) {n : Node} (hn : n ∈ s.nodeList) :
    ((Report.ofFindings (Check.all.flatMap found)).onConnections n.id).map Finding.code =
      (s.verdict? final.category r n).toList := by
  have hcodes (c : Code) : c ∈ connectionCodes ↔ c.check? = some .connections := by
    cases c <;> decide
  have hreported : ∀ f : Finding, decide (f.code ∈ connectionCodes ∧ f.nodeId = some n.id) = true →
      f.ReportedBy .connections :=
    fun f hf => (hcodes f.code).mp (of_decide_eq_true hf).1
  have hperm := Check.perm_filter_all_ofFindings hown hreported
  have hsame : (found .connections).filter
      (fun f => f.code ∈ connectionCodes ∧ f.nodeId = some n.id) =
        (found .connections).filter fun f => f.nodeId = some n.id := by
    refine List.filter_congr fun f hf => ?_
    have hcode : f.code ∈ connectionCodes := (hcodes f.code).mpr (hown _ f hf)
    simp [hcode]
  rw [hsame, hfound] at hperm
  have hcodesPerm := hperm.map Finding.code
  rw [Snapshot.map_code_connections hs hr htriggers hn] at hcodesPerm
  cases hverdict : s.verdict? final.category r n with
  | none => exact (hverdict ▸ hcodesPerm).eq_nil
  | some c => exact (hverdict ▸ hcodesPerm).eq_singleton

/-- **What the checks find says of connections what is due.** -/
theorem Finds.connects (h : g.Finds o s final found)
    (hs : Snapshot.ofBatches nodes edges = .ok s) (hrefinements : g.refinements = .builtin) :
    (Report.ofFindings (Check.all.flatMap found)).Connects s final.category := by
  have hconsistent := Snapshot.consistent_of_ofBatches hs
  have hown : ∀ check, ∀ f ∈ found check, f.ReportedBy check :=
    fun _ _ hf => h.reportedBy_of_mem hs hrefinements hf
  obtain ⟨r, htriggers, hsorts, hfound⟩ := h.exists_sorts hconsistent
  have hadvice : (Report.ofFindings (Check.all.flatMap found)).coded .noTrigger =
      (s.triggerAdvice r.triggers).filter fun f => f.code = .noTrigger := by
    rw [Check.coded_ofFindings hown rfl .error fun f hf => s.severity_of_noTrigger (h.triggers ▸ hf),
      h.triggers, htriggers]
  have hcoded {code : Code} (hcode : code.check? = some .connections) :
      (Report.ofFindings (Check.all.flatMap found)).coded code =
        (found .connections).filter fun f => f.code = code := by
    refine Check.coded_ofFindings hown hcode
      (if code = .conditionallyReachable then .info else .warning) fun f hf heq => ?_
    rw [hfound] at hf
    rw [Snapshot.severity_of_mem_connections hf, heq]
  have hsaid {n : Node} (hn : n ∈ s.nodeList) :
      ((Report.ofFindings (Check.all.flatMap found)).onConnections n.id).map Finding.code =
        (s.verdict? final.category r n).toList :=
    map_code_onConnections hconsistent hown hsorts htriggers hfound hn
  have hsome (hex : ∃ n ∈ s.nodeList, final.category n.kind = .trigger) : r.triggers ≠ [] := by
    obtain ⟨n, hn, hkind⟩ := hex
    rw [htriggers]
    exact fun hempty => Snapshot.nodesOf_eq_nil_iff.mp hempty n hn hkind
  constructor
  case without_trigger =>
    intro hno
    have hempty : r.triggers = [] := htriggers.trans (Snapshot.nodesOf_eq_nil_iff.mpr hno)
    rw [hadvice, hcoded rfl, hcoded rfl, hfound, hempty]
    exact ⟨rfl, s.filter_of_ne_orphanNode hempty _ (by decide),
      s.filter_of_ne_orphanNode hempty _ (by decide)⟩
  case with_trigger =>
    intro hex
    rw [hadvice, Snapshot.filter_noTrigger_of_ne_nil (hsome hex)]
  case orphans =>
    rw [hcoded rfl, hfound, Snapshot.filter_orphanNode, Snapshot.orphansOf]
    congr 3
    funext n
    rw [Bool.eq_iff_iff, Snapshot.isOrphan_iff, decide_eq_true_iff]
  case at_most_one =>
    intro n hn
    rw [← List.length_map (f := Finding.code), hsaid hn]
    exact Option.length_toList_le
  case on_trigger =>
    intro n hn hkind
    rw [← List.map_eq_nil_iff (f := Finding.code), hsaid hn,
      Snapshot.verdict?_of_trigger hsorts hconsistent htriggers hn hkind]
    rfl
  case on_isolated =>
    intro hex n hn hkind hisolated
    rw [hsaid hn, Snapshot.verdict?_of_isolated hconsistent hsorts htriggers (hsome hex) hn hkind
      hisolated]
    rfl

/-- **What a report on a canvas says of connections**, for any registry and lookup, where refinements
are the built-in ones and nobody is asked.  A node counts as a trigger by the category that the run
leaves resolved for its kind; where the lookup answers steadily, that is the one which the answers
give. -/
theorem connects_of_report (hrefinements : g.refinements = .builtin)
    (hunwanted : o.withBackend.truthy = false) (hlists : (nodes.isList && edges.isList) = true)
    (hreport : (g.validate o mayWait nodes edges t).result = .ok report) :
    ∃ s, Snapshot.ofBatches nodes edges = .ok s ∧ (s.isEmpty = false →
      report.Connects s (g.resolved o mayWait nodes edges).category ∧
        ∀ answers, Resolver.Steady g.schemas answers (Run.begin g.schemas o.lookup).resolver →
          ∀ n ∈ s.nodeList, Resolver.categoryFor g.schemas answers n.kind =
            .ok ((g.resolved o mayWait nodes edges).category n.kind)) := by
  obtain ⟨s, hs⟩ := succeeds_ofBatches_of_stage hlists
    ((g.succeeds_validate_iff_stage hunwanted mayWait nodes edges t).mp ⟨report, hreport⟩)
  refine ⟨s, hs, fun hnodes => ?_⟩
  obtain ⟨hextends, found, more, hfound, rfl, hmore, -⟩ := exists_finds hlists hs hnodes hreport
  rw [hmore hunwanted, List.append_nil]
  refine ⟨hfound.connects hs hrefinements, fun answers hsteady n hn => ?_⟩
  refine hsteady.categoryFor_eq hextends ?_
  cases hkind : n.kind.isEmpty with
  | true => exact .inl ((Text.isEmpty_iff n.kind).mp hkind)
  | false => exact (hfound.fields.every n hn hkind).1

/-- A trigger, a node without edges, and one without edges in a group. -/
def scatteredNodes : List Value :=
  [.ofFields [("id", .text "T"), ("kind", .text "manual_trigger")], .ofFields [("id", .text "A")],
    .ofFields [("id", .text "B"), ("parentNode", .text "G")]]

/-- The graph of these nodes. -/
def scatteredSnapshot : Snapshot :=
  .ofReadings [.node ⟨"T", "manual_trigger", [], none, none⟩, .node ⟨"A", "", [], none, none⟩,
    .node ⟨"B", "", [], none, some "G"⟩] []

/-- Of these nodes one is an orphan, one is led to by nothing, and nothing is said of the trigger. -/
theorem connects_of_report_scattered :
    ∃ report, (({} : Gate).validate {} true (.ofValue (.list scatteredNodes)) (.ofValue (.list []))
        { deliver := fun _ => .silence }).result = .ok report ∧
      report.coded .noTrigger = [] ∧ report.onConnections "T" = [] ∧
      (report.onConnections "A").map Finding.code = [.orphanNode] ∧
      (report.onConnections "B").map Finding.code = [.unreachableNode] := by
  have hread : Snapshot.ofBatches (.ofValue (.list scatteredNodes)) (.ofValue (.list [])) =
      .ok scatteredSnapshot := rfl
  obtain ⟨report, hreport⟩ := ({} : Gate).exists_report_of_judgeable (o := {}) rfl rfl
    Gate.usable_default rfl true hread
    (Snapshot.judgeable_of_blank (by decide) (by decide +kernel)) { deliver := fun _ => .silence }
  obtain ⟨s, hs, hcanvas⟩ := connects_of_report rfl rfl rfl hreport
  obtain rfl : scatteredSnapshot = s := Except.ok.inj (hread.symm.trans hs)
  obtain ⟨hconnects, hcategory⟩ := hcanvas rfl
  -- the registry knows the first kind as that of a trigger; a node without a kind is none
  have hkinds := hcategory _ (Resolver.steady_begin _)
  let trigger : Node := ⟨"T", "manual_trigger", [], none, none⟩
  let orphan : Node := ⟨"A", "", [], none, none⟩
  let grouped : Node := ⟨"B", "", [], none, some "G"⟩
  have htrigger : trigger ∈ scatteredSnapshot.nodeList := List.mem_cons_self
  have horphan : orphan ∈ scatteredSnapshot.nodeList := List.mem_cons_of_mem _ List.mem_cons_self
  have hgrouped : grouped ∈ scatteredSnapshot.nodeList :=
    List.mem_cons_of_mem _ (List.mem_cons_of_mem _ List.mem_cons_self)
  let category := (({} : Gate).resolved {} true (.ofValue (.list scatteredNodes))
    (.ofValue (.list []))).category
  have hstarts : category "manual_trigger" = .trigger :=
    (Except.ok.inj (hkinds trigger htrigger)).symm
  have hgeneric : category "" = .generic := (Except.ok.inj (hkinds orphan horphan)).symm
  have hplain : category "" ≠ .trigger := fun h => (nomatch hgeneric.symm.trans h)
  have hsome : ∃ n ∈ scatteredSnapshot.nodeList, category n.kind = .trigger :=
    ⟨trigger, htrigger, hstarts⟩
  have hedges : ∀ id, scatteredSnapshot.Isolated id := fun _ _ he => (nomatch he)
  exact ⟨report, hreport, hconnects.with_trigger hsome,
    hconnects.on_trigger trigger htrigger hstarts,
    hconnects.on_isolated hsome orphan horphan hplain (hedges _),
    hconnects.on_isolated hsome grouped hgrouped hplain (hedges _)⟩

end Gate

end WorkflowGate
