/-
# The loop of the search

From the root on, the stacks of a search stand side by side: for every node of the path there are the
steps that it has left, and for every two neighbours the edge between them.  `Search.Aligned` says so
place by place, and what the colours have to do with it.  Every turn of a search finds it so, from
whatever root and after whatever searches, as long as these left nothing in progress and what is done
leads to what is done (`Snapshot.Resting`).

The turns of a search depend on what is read from the index, not on the order of its keys
(`Search.run_congr`), so the colours may stand in any order too.

* `Search.Trail.exists_edge`, `Search.Trail.tried_at`: the stacks of a trail, place by place;
* `Search.Sound.aligned`: the stacks of a sound search are aligned;
* `Snapshot.resting_start`: the first of all searches may begin;
* `Snapshot.search_aligned`: **every turn finds the stacks aligned**, and a search that ends without a
  cycle leaves everything done that its root reaches, and nothing in progress.
-/
import WorkflowGate.Proofs.Graph.Acyclic

namespace WorkflowGate

open Colouring

variable {adjacency adjacency' : OrderedMap Text (List Step)} {edges : List Edge}

namespace Search

/-! ## 1. The stacks, place by place -/

/-- **What holds before every turn, counted from the root**: of the path, the edges taken along it, the
steps that each of its nodes has tried and has left, and the colours. -/
structure Aligned (adjacency : OrderedMap Text (List Step)) (edges : List Edge) (s : Search) : Prop where
  pending_length : s.pending.length = s.path.length
  taken_length : s.taken.length = s.path.length - 1
  path_nodup : s.path.Nodup
  inProgress_iff : ∀ x, s.colours.find? x = some .inProgress ↔ x ∈ s.path
  taken_edge : ∀ i, i + 1 < s.path.length → ∃ e ∈ edges, s.path.reverse[i]? = some e.source ∧
    s.path.reverse[i + 1]? = some e.target ∧ s.taken.reverse[i]? = some e.id
  tried_steps : ∀ i a, s.path.reverse[i]? = some a → ∃ tried left,
    adjacency.find? a = some (tried ++ left) ∧ s.pending.reverse[i]? = some left ∧
      ∀ step ∈ tried, s.colours.find? step.target = some .done ∨
        s.path.reverse[i + 1]? = some step.target
  closed : ∀ e ∈ edges, s.colours.find? e.source = some .done →
    s.colours.find? e.target = some .done

/-- The last member of a list stands at its end. -/
theorem getElem?_concat {α : Type} {xs : List α} {x : α} {i : Nat} (h : i = xs.length) :
    (xs ++ [x])[i]? = some x := by
  rw [h]
  exact List.getElem?_concat_length

namespace Trail

variable {colours : Colouring} {next : Option Text} {path taken : List Text}
  {pending : List (List Step)}

/-- The edge taken from a place leads from its node to the next one. -/
theorem exists_edge (h : Trail adjacency edges colours next path taken pending) {i : Nat}
    (hi : i + 1 < path.length) : ∃ e ∈ edges, path.reverse[i]? = some e.source ∧
      path.reverse[i + 1]? = some e.target ∧ taken.reverse[i]? = some e.id := by
  induction h with
  | root _ => exact absurd hi (Nat.not_lt_of_le (Nat.le_add_left 1 i))
  | @onward _ e _ path taken pending he _ hbelow ih =>
    have hlower : (e.source :: path).reverse.length = (e.source :: path).length :=
      List.length_reverse
    have htaken : taken.reverse.length + 1 = (e.source :: path).length := by
      rw [List.length_reverse]
      exact hbelow.lengths.2
    rw [List.reverse_cons (a := e.target), List.reverse_cons (a := e.id)]
    rcases Nat.lt_or_eq_of_le (Nat.le_of_lt_succ hi) with hbefore | hlast
    · obtain ⟨d, hd, hsource, htarget, hid⟩ := ih hbefore
      refine ⟨d, hd, ?_, ?_, ?_⟩
      · rw [List.getElem?_append_left (by omega), hsource]
      · rw [List.getElem?_append_left (by omega), htarget]
      · rw [List.getElem?_append_left (by omega), hid]
    · -- the edge on top of the stack leads from the top of the path below to its target
      refine ⟨e, he, ?_, getElem?_concat (by omega), getElem?_concat (by omega)⟩
      rw [List.getElem?_append_left (by omega), List.reverse_cons]
      refine getElem?_concat ?_
      rw [List.length_reverse]
      exact Nat.succ.inj hlast

/-- The steps that the node at a place has tried lead to nodes that are done, or to the next place. -/
theorem tried_at (h : Trail adjacency edges colours next path taken pending) {i : Nat} {a : Text}
    (ha : path.reverse[i]? = some a) : ∃ left, pending.reverse[i]? = some left ∧
      Tried adjacency colours a left (path.reverse ++ next.toList)[i + 1]? := by
  induction h with
  | @root next b left htried =>
    cases i with
    | zero =>
      cases ha
      refine ⟨left, rfl, ?_⟩
      cases next <;> exact htried
    | succ i => cases ha
  | @onward next e left path taken pending he htried hbelow ih =>
    have hpending : pending.reverse.length = (e.source :: path).reverse.length := by
      rw [List.length_reverse, List.length_reverse]
      exact hbelow.lengths.1
    rw [List.reverse_cons (a := e.target)] at ha ⊢
    rw [List.reverse_cons (a := left)]
    rcases Nat.lt_trichotomy i (e.source :: path).reverse.length with hbefore | hlast | hbeyond
    · rw [List.getElem?_append_left hbefore] at ha
      obtain ⟨rest, hrest, hbelowTried⟩ := ih ha
      refine ⟨rest, ?_, ?_⟩
      · rw [List.getElem?_append_left (hpending ▸ hbefore), hrest]
      · rw [List.getElem?_append_left (by rw [List.length_append]; exact Nat.succ_lt_succ hbefore)]
        exact hbelowTried
    · rw [getElem?_concat hlast] at ha
      cases ha
      refine ⟨left, getElem?_concat (hlast.trans hpending.symm), ?_⟩
      have hnext : ((e.source :: path).reverse ++ [e.target] ++ next.toList)[i + 1]? = next := by
        have hlength : ((e.source :: path).reverse ++ [e.target]).length = i + 1 := by
          rw [List.length_append, hlast, List.length_singleton]
        rw [List.getElem?_append_right (Nat.le_of_eq hlength), hlength, Nat.sub_self]
        cases next <;> rfl
      rw [hnext]
      exact htried
    · rw [List.getElem?_eq_none (by rw [List.length_append]; exact hbeyond)] at ha
      cases ha

end Trail

/-- **The stacks of a sound search are aligned.** -/
theorem Sound.aligned {s : Search} (h : Sound adjacency edges s) : Aligned adjacency edges s := by
  rcases h.trail with ⟨hpath, htaken, hpending⟩ | htrail
  · constructor
    case path_nodup => exact h.nodup
    case inProgress_iff => exact h.inProgress_iff
    case closed => exact h.closed
    all_goals simp [hpath, htaken, hpending]
  · constructor
    case pending_length => exact htrail.lengths.1
    case taken_length => exact Nat.eq_sub_of_add_eq htrail.lengths.2
    case path_nodup => exact h.nodup
    case inProgress_iff => exact h.inProgress_iff
    case taken_edge => exact fun i hi => htrail.exists_edge hi
    case tried_steps =>
      intro i a ha
      obtain ⟨left, hleft, tried, hsteps, htried⟩ := htrail.tried_at ha
      rw [Option.toList_none, List.append_nil] at htried
      exact ⟨tried, left, hsteps, hleft, htried⟩
    case closed => exact h.closed

/-! ## 2. What a search reads from the index -/

theorem run_of_stop {s : Search} {v : Verdict} (h : s.turn adjacency = .stop v) :
    s.run adjacency = v := by
  rw [run]
  split
  next other hother =>
    rw [h] at hother
    cases hother
    rfl
  next s' hother =>
    rw [h] at hother
    cases hother

theorem run_of_goOn {s s' : Search} (h : s.turn adjacency = .goOn s') :
    s.run adjacency = s'.run adjacency := by
  rw [run]
  split
  next v hother =>
    rw [h] at hother
    cases hother
  next other hother =>
    rw [h] at hother
    cases hother
    rfl

variable (hfind : ∀ x, adjacency.find? x = adjacency'.find? x)

include hfind

theorem turn_congr (s : Search) : s.turn adjacency = s.turn adjacency' := by
  simp only [turn, hfind]

theorem Turns.congr {s s' : Search} (h : Turns adjacency s s') : Turns adjacency' s s' := by
  induction h with
  | refl => exact .refl
  | tail _ hturn ih => exact ih.tail (turn_congr hfind _ ▸ hturn)

theorem Aligned.congr {s : Search} (h : Aligned adjacency edges s) : Aligned adjacency' edges s where
  __ := h
  tried_steps i a ha := by
    rw [← hfind]
    exact h.tried_steps i a ha

/-- A search goes by what it reads from the index. -/
theorem run_congr (s : Search) : s.run adjacency = s.run adjacency' := by
  fun_induction run adjacency s with
  | case1 s v hturn => exact (run_of_stop (turn_congr hfind s ▸ hturn)).symm
  | case2 s s' hturn ih => exact ih.trans (run_of_goOn (turn_congr hfind s ▸ hturn)).symm

end Search

/-! ## 3. Colours in any order -/

namespace Colouring

/-- The index with its keys in the order of the colours. -/
def reindex (c : Colouring) (adjacency : OrderedMap Text (List Step)) : OrderedMap Text (List Step) :=
  c.mapValues fun x _ => (adjacency.find? x).getD []

theorem keys_reindex (c : Colouring) (adjacency : OrderedMap Text (List Step)) :
    (c.reindex adjacency).keys = c.keys :=
  OrderedMap.keys_mapValues c _

/-- The same is read from it, if the same nodes are coloured. -/
theorem find?_reindex {c : Colouring} (h : ∀ x, x ∈ c.keys ↔ x ∈ adjacency.keys) (x : Text) :
    (c.reindex adjacency).find? x = adjacency.find? x := by
  rw [reindex, OrderedMap.find?_mapValues]
  have hcontains : (c.find? x).isSome = (adjacency.find? x).isSome := by
    rw [Bool.eq_iff_iff]
    exact (OrderedMap.contains_iff c x).trans ((h x).trans (OrderedMap.contains_iff adjacency x).symm)
  cases hc : c.find? x with
  | none =>
    rw [hc] at hcontains
    exact (Option.isSome_eq_false_iff.mp hcontains.symm |> Option.isNone_iff_eq_none.mp).symm
  | some colour =>
    rw [hc] at hcontains
    obtain ⟨steps, hsteps⟩ := Option.isSome_iff_exists.mp hcontains.symm
    rw [hsteps]
    rfl

end Colouring

namespace Snapshot

/-- **What a search may begin with.**  Every node has a colour, none is in progress, and a retained edge
from a node that is done leads to one that is done. -/
structure Resting (s : Snapshot) (ignoreErrorHandles : Bool) (c : Colouring) : Prop where
  mem_keys_iff : ∀ x, x ∈ c.keys ↔ x ∈ s.nodes.keys
  none_inProgress : ∀ x, c.find? x ≠ some .inProgress
  closed : ∀ e ∈ s.retained ignoreErrorHandles, c.find? e.source = some .done →
    c.find? e.target = some .done

variable {s : Snapshot} {ignore : Bool} {c : Colouring}

/-- Nothing has been visited at first. -/
theorem resting_start (s : Snapshot) (ignore : Bool) : s.Resting ignore (Colouring.start s) where
  mem_keys_iff x := by rw [keys_start]
  none_inProgress x := find?_start_ne (by decide)
  closed e _ hdone := absurd hdone (find?_start_ne (by decide))

/-- What a node that is done reaches is done. -/
theorem Resting.done_of_reaches (h : s.Resting ignore c) {x y : Text}
    (hreach : Reaches (s.retained ignore) x y) (hx : c.find? x = some .done) :
    c.find? y = some .done := by
  obtain ⟨route, hroute⟩ := hreach
  induction hroute with
  | nil a => exact hx
  | cons he _ ih => exact ih (h.closed _ he hx)

theorem Resting.rested (h : s.Resting ignore c) :
    c.Rested (c.reindex (s.traversable ignore)) (s.retained ignore) where
  keys := (keys_reindex c _).symm
  none_inProgress := h.none_inProgress
  closed := h.closed

theorem Resting.of_rested (hkeys : ∀ x, x ∈ adjacency.keys ↔ x ∈ s.nodes.keys)
    (h : c.Rested adjacency (s.retained ignore)) : s.Resting ignore c where
  mem_keys_iff := h.keys ▸ hkeys
  none_inProgress := h.none_inProgress
  closed := h.closed

/-- A search goes along the retained edges, in whatever order the colours stand. -/
theorem Consistent.indexes_reindex (h : s.Consistent) (hc : s.Resting ignore c) :
    Indexes (c.reindex (s.traversable ignore)) (s.retained ignore) := by
  have hindex := h.indexes_traversable ignore
  have hkeys : ∀ x, x ∈ c.keys ↔ x ∈ (s.traversable ignore).keys := by
    intro x
    rw [h.traversable_keys]
    exact hc.mem_keys_iff x
  refine ⟨fun a ha => ?_, fun e he => ?_⟩
  · rw [find?_reindex hkeys]
    exact hindex.steps_eq a ((hkeys a).mp (keys_reindex c _ ▸ ha))
  · rw [keys_reindex, hkeys, hkeys]
    exact hindex.ends e he

/-- **Every turn of a search finds its stacks and colours aligned**, from whatever root that has not been
visited and with whatever colours a search may begin.  One that ends without a cycle leaves colours with
which another may begin, and everything done that its root reaches along retained edges. -/
theorem search_aligned {nodes : Batch Node} {edges : Batch Edge} (h : ofBatches nodes edges = .ok s)
    (hc : s.Resting ignore c) {root : Text} (hroot : c.find? root = some .unvisited) :
    ∃ steps, (s.traversable ignore).find? root = some steps ∧
      (∀ q, Search.Turns (s.traversable ignore) (.start c root steps) q →
        q.Aligned (s.traversable ignore) (s.retained ignore)) ∧
      ∀ c', (Search.start c root steps).run (s.traversable ignore) = .clear c' →
        s.Resting ignore c' ∧ ∀ x, Reaches (s.retained ignore) root x → c'.find? x = some .done := by
  have hconsistent := consistent_of_ofBatches h
  have hkeys : ∀ x, x ∈ (s.traversable ignore).keys ↔ x ∈ c.keys := by
    intro x
    rw [hconsistent.traversable_keys]
    exact (hc.mem_keys_iff x).symm
  have hread : ∀ x, (s.traversable ignore).find? x = (c.reindex (s.traversable ignore)).find? x :=
    fun x => (find?_reindex (fun x => (hkeys x).symm) x).symm
  have hindex := hconsistent.indexes_reindex hc
  obtain ⟨steps, hsteps⟩ :=
    hindex.find?_isSome ((keys_reindex c _).symm ▸ mem_keys_of_find? hroot)
  refine ⟨steps, (hread root).trans hsteps, fun q hturns => ?_, fun c' hrun => ?_⟩
  · -- soundness is kept by every turn, and with it there is nothing else to keep
    have hstart := hc.rested.sound_start hroot hsteps
    have hsound := (hstart.turns (P := fun _ => True) hindex (fun _ _ _ _ _ => trivial)
      (hturns.congr hread) trivial).1
    exact hsound.aligned.congr fun x => (hread x).symm
  · have hids : ((s.retained ignore).map Edge.id).Nodup :=
      (List.filter_sublist.map Edge.id).nodup hconsistent.edge_ids_nodup
    have hsearched := hc.rested.run hindex hids hroot hsteps
    rw [← Search.run_congr hread, hrun] at hsearched
    cases hsearched with
    | clear hrested hdone _ _ =>
      have hresting : s.Resting ignore c' := by
        refine .of_rested (fun x => ?_) hrested
        rw [keys_reindex]
        exact hc.mem_keys_iff x
      exact ⟨hresting, fun x hreach => hresting.done_of_reaches hreach hdone⟩

/-- The colours when the second of the two nodes is done, and stands first. -/
def storedFirst : Colouring := ⟨[("store", .done), ("fetch", .unvisited)], by decide⟩

theorem resting_storedFirst : retrySnapshot.Resting true storedFirst where
  mem_keys_iff x := by
    have hkeys : retrySnapshot.nodes.keys = ["fetch", "store"] := by rfl
    rw [hkeys]
    exact List.Perm.mem_iff (List.Perm.swap _ _ _)
  none_inProgress x := by
    simp only [storedFirst, OrderedMap.find?, OrderedMap.lookup]
    split_ifs <;> simp
  closed e he hsource := by
    have hretained : retrySnapshot.retained true = [⟨"on", "fetch", "store", none, none⟩] := by cbv
    rw [hretained, List.mem_singleton] at he
    rw [he]
    rfl

/-- Without the step back the search from the first node ends. -/
theorem search_aligned_retry :
    ofBatches retryCanvas.1 retryCanvas.2 = .ok retrySnapshot ∧
      retrySnapshot.Resting true storedFirst ∧ storedFirst.find? "fetch" = some .unvisited ∧
      ∃ steps c', (Search.start storedFirst "fetch" steps).run (retrySnapshot.traversable true) =
        .clear c' ∧ retrySnapshot.Resting true c' ∧ c'.find? "fetch" = some .done := by
  have hsnapshot : ofBatches retryCanvas.1 retryCanvas.2 = .ok retrySnapshot := rfl
  have hroot : storedFirst.find? "fetch" = some .unvisited := rfl
  obtain ⟨steps, hsteps, -, hclear⟩ := search_aligned hsnapshot resting_storedFirst hroot
  have hrun : (Search.start storedFirst "fetch" [⟨"store", "on"⟩]).run (retrySnapshot.traversable true) =
      .clear (storedFirst.paint "fetch" .done) := by
    cbv
  have hlisted : (retrySnapshot.traversable true).find? "fetch" = some [⟨"store", "on"⟩] := by cbv
  cases hlisted.symm.trans hsteps
  obtain ⟨hresting, hdone⟩ := hclear _ hrun
  exact ⟨hsnapshot, resting_storedFirst, hroot, _, _, hrun, hresting, hdone "fetch" (.refl _)⟩

end Snapshot

end WorkflowGate
