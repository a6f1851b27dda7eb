/-
# Searches end

The search for cycles and the breadth-first search are loops with a queue or with stacks that grow as
well as shrink.  What carries them to their end is what is left to try: the entries that stand in the
queue or on the stacks, and besides them the steps of every node that has not been visited.  A visit
moves the steps of a node from the one to the other, and every turn takes one entry off, so the numbers
of nodes and edges bound the number of turns.

What a turn looks up is there: every id that stands in the queue or on the stacks is a key of the maps
that it is looked up in, since both searches follow edges between nodes alone.

Loops are told here by a single turn (`Reach.turn`, `Sweep.turn`), which need not end of its own accord;
`Loop.EndsWithin` says that one does, and after how many turns.

* `Loop.endsWithin`: an invariant and a size that falls with every turn bring a loop to its end;
* `Indexes.sum_stepCount`: the nodes have as many steps together as there are edges;
* `Reach.endsWithin_search`, `Sweep.endsWithin_searchRoots`: both searches end, within so many turns;
* `Snapshot.searches_end`: **so do they on every snapshot, and find whatever they look up**.
-/
import WorkflowGate.Proofs.Graph.Reached
import WorkflowGate.Proofs.Graph.SearchLoop

namespace WorkflowGate

/-! ## 1. Loops, turn by turn -/

namespace Loop

variable {σ ρ : Type} {turn : σ → σ ⊕ ρ} {start : σ}

/-- After so many turns that go on, a loop stands at a state. -/
inductive Comes (turn : σ → σ ⊕ ρ) (start : σ) : Nat → σ → Prop
  | begin : Comes turn start 0 start
  | goOn {n : Nat} {s s' : σ} :
      Comes turn start n s → turn s = .inl s' → Comes turn start (n + 1) s'

/-- **A loop ends with a result within so many turns**, and no turn of it leads further; whatever state
it comes to satisfies the condition. -/
structure EndsWithin (turn : σ → σ ⊕ ρ) (start : σ) (bound : Nat) (holds : σ → Prop) (result : ρ) :
    Prop where
  ends : ∃ n last, Comes turn start n last ∧ turn last = .inr result
  no_further : ∀ n s, Comes turn start n s → n ≤ bound
  always : ∀ n s, Comes turn start n s → holds s

/-- What is asked of the states may be weakened, and the bound raised. -/
theorem EndsWithin.mono {bound bound' : Nat} {holds holds' : σ → Prop} {result : ρ}
    (hbound : bound ≤ bound') (hholds : ∀ s, holds s → holds' s)
    (h : EndsWithin turn start bound holds result) :
    EndsWithin turn start bound' holds' result where
  ends := h.ends
  no_further n s hcomes := (h.no_further n s hcomes).trans hbound
  always n s hcomes := hholds s (h.always n s hcomes)

/-- What every turn keeps, and makes smaller, on the way. -/
theorem Comes.kept {inv : σ → Prop} {size : σ → Nat}
    (hturn : ∀ s s', inv s → turn s = .inl s' → inv s' ∧ size s' < size s)
    (hstart : inv start) {n : Nat} {s : σ} (h : Comes turn start n s) :
    inv s ∧ n + size s ≤ size start := by
  induction h with
  | begin => exact ⟨hstart, Nat.le_of_eq (Nat.zero_add _)⟩
  | @goOn n s s' _ hs ih =>
    obtain ⟨hinv, hle⟩ := ih
    obtain ⟨hinv', hlt⟩ := hturn s s' hinv hs
    exact ⟨hinv', by omega⟩

/-- A loop whose size falls with every turn cannot go on for ever. -/
theorem Comes.exists_end {inv : σ → Prop} {size : σ → Nat}
    (hturn : ∀ s s', inv s → turn s = .inl s' → inv s' ∧ size s' < size s)
    {n : Nat} {s : σ} (h : Comes turn start n s) (hs : inv s) :
    ∃ m last r, Comes turn start m last ∧ turn last = .inr r := by
  induction hsize : size s using Nat.strong_induction_on generalizing n s with
  | _ k ih =>
    subst hsize
    cases hnext : turn s with
    | inr r => exact ⟨n, s, r, h, hnext⟩
    | inl s' =>
      obtain ⟨hs', hlt⟩ := hturn s s' hs hnext
      exact ih (size s') hlt (h.goOn hnext) hs' rfl

/-- **An invariant and a size that falls with every turn bring a loop to its end.**  Its result is what
the function gives that every turn leaves as it is. -/
theorem endsWithin {inv : σ → Prop} {size : σ → Nat} (value : σ → ρ)
    (hturn : ∀ s s', inv s → turn s = .inl s' → inv s' ∧ size s' < size s)
    (hgoOn : ∀ s s', turn s = .inl s' → value s = value s')
    (hstop : ∀ s r, turn s = .inr r → value s = r) (hstart : inv start) :
    EndsWithin turn start (size start) inv (value start) where
  ends := by
    have hvalue : ∀ {n s}, Comes turn start n s → value start = value s := by
      intro n s h
      induction h with
      | begin => rfl
      | goOn _ hs ih => exact ih.trans (hgoOn _ _ hs)
    obtain ⟨n, last, r, hcomes, hlast⟩ := Comes.exists_end hturn .begin hstart
    refine ⟨n, last, hcomes, ?_⟩
    rw [hlast, hvalue hcomes, hstop last r hlast]
  no_further n s hcomes := by
    have hle := (hcomes.kept hturn hstart).2
    omega
  always n s hcomes := (hcomes.kept hturn hstart).1

end Loop

/-! ## 2. What is left to try -/

/-- How much the keys weigh together that are left. -/
def weightLeft (keys : List Text) (left : Text → Bool) (weight : Text → Nat) : Nat :=
  ((keys.filter left).map weight).sum

section WeightLeft

variable {keys : List Text} {left left' : Text → Bool} {weight : Text → Nat} {id : Text}

/-- Fewer keys weigh less. -/
theorem weightLeft_mono (h : ∀ x, left' x = true → left x = true) :
    weightLeft keys left' weight ≤ weightLeft keys left weight :=
  ((keys.monotone_filter_right h).map weight).sum_le_sum fun _ _ => Nat.zero_le _

/-- **A key that is taken off the keys that are left takes its weight with it.** -/
theorem weightLeft_add_le (hid : id ∈ keys) (hleft : left id = true) (htaken : left' id = false)
    (h : ∀ x, left' x = true → left x = true) :
    weightLeft keys left' weight + weight id ≤ weightLeft keys left weight := by
  have hgone : id ∉ keys.filter left' := by
    intro hmem
    rw [(List.mem_filter.mp hmem).2] at htaken
    cases htaken
  have hsub : (keys.filter left').Sublist ((keys.filter left).erase id) := by
    rw [← List.erase_of_not_mem hgone]
    exact (keys.monotone_filter_right h).erase id
  have hsum := List.sum_map_erase weight (List.mem_filter.mpr ⟨hid, hleft⟩)
  have hle := (hsub.map weight).sum_le_sum fun _ _ => Nat.zero_le _
  unfold weightLeft
  omega

/-- All keys weigh no less than those that are left. -/
theorem weightLeft_le : weightLeft keys left weight ≤ (keys.map weight).sum :=
  (List.filter_sublist.map weight).sum_le_sum fun _ _ => Nat.zero_le _

end WeightLeft

/-- How many steps lead from a node. -/
def stepCount (adjacency : OrderedMap Text (List Step)) (id : Text) : Nat :=
  ((adjacency.find? id).getD []).length

theorem stepCount_eq {adjacency : OrderedMap Text (List Step)} {id : Text} {steps : List Step}
    (h : adjacency.find? id = some steps) : stepCount adjacency id = steps.length := by
  rw [stepCount, h, Option.getD_some]

variable {adjacency : OrderedMap Text (List Step)} {edges : List Edge}

/-- **The nodes have as many steps together as there are edges**: every edge leaves one node. -/
theorem Indexes.sum_stepCount (h : Indexes adjacency edges) :
    (adjacency.keys.map (stepCount adjacency)).sum = edges.length := by
  have hcount : ∀ a ∈ adjacency.keys,
      stepCount adjacency a = Multiset.count a (edges.map Edge.source : Multiset Text) := by
    intro a ha
    rw [stepCount_eq (h.steps_eq a ha), List.length_map, Multiset.coe_count, List.count,
      List.countP_map, List.countP_eq_length_filter]
    rfl
  have hsources : ∀ a ∈ (edges.map Edge.source : Multiset Text), a ∈ adjacency.keys.toFinset := by
    intro a ha
    obtain ⟨e, he, rfl⟩ := List.mem_map.mp (Multiset.mem_coe.mp ha)
    exact List.mem_toFinset.mpr (h.ends e he).1
  have hsum := Multiset.sum_count_eq_card hsources
  rw [List.sum_toFinset _ adjacency.nodup_keys, Multiset.coe_card, List.length_map] at hsum
  rw [List.map_congr_left hcount, hsum]

/-! ## 3. The breadth-first search -/

namespace Reach

/-- Which nodes a search has reached, and which are in its queue. -/
structure Front where
  reached : List Text
  queue : List Text

variable {follow : Text → Bool}

/-- One turn of the search. -/
def turn (adjacency : OrderedMap Text (List Step)) (follow : Text → Bool) (f : Front) :
    Front ⊕ Except Fault (List Text) :=
  match f.queue with
  | [] => .inr (.ok f.reached)
  | id :: queue =>
    if f.reached.contains id then .inl ⟨f.reached, queue⟩
    else if follow id then
      match adjacency.find? id with
      | none => .inr (.error (.missingEntry id))
      | some steps => .inl ⟨id :: f.reached, queue ++ steps.map (·.target)⟩
    else .inl ⟨id :: f.reached, queue⟩

/-- What a turn that goes on does: it passes over a node that has been reached, or visits one whose
steps are followed, or one whose steps are not. -/
inductive Move (adjacency : OrderedMap Text (List Step)) (follow : Text → Bool) : Front → Front → Prop
  | pass {id : Text} {reached queue : List Text} :
      id ∈ reached → Move adjacency follow ⟨reached, id :: queue⟩ ⟨reached, queue⟩
  | expand {id : Text} {reached queue : List Text} {steps : List Step} :
      id ∉ reached → follow id = true → adjacency.find? id = some steps →
        Move adjacency follow ⟨reached, id :: queue⟩
          ⟨id :: reached, queue ++ steps.map (·.target)⟩
  | visit {id : Text} {reached queue : List Text} :
      id ∉ reached → follow id = false →
        Move adjacency follow ⟨reached, id :: queue⟩ ⟨id :: reached, queue⟩

theorem move_of_turn {f f' : Front} (h : turn adjacency follow f = .inl f') :
    Move adjacency follow f f' := by
  obtain ⟨reached, queue⟩ := f
  cases queue with
  | nil => cases h
  | cons id queue =>
    simp only [turn, List.contains_iff_mem] at h
    split at h
    · next hid =>
      cases h
      exact .pass hid
    · next hid =>
      split at h
      · next hfollow =>
        split at h
        · cases h
        · next hsteps =>
          cases h
          exact .expand hid hfollow hsteps
      · next hfollow =>
        cases h
        exact .visit hid (Bool.eq_false_iff.mpr hfollow)

/-- The search of a front goes on as that of the front to which a turn leads. -/
theorem Move.search_eq {f f' : Front} (h : Move adjacency follow f f') :
    search adjacency follow f.reached f.queue = search adjacency follow f'.reached f'.queue := by
  cases h with
  | pass hid => rw [search, dif_pos (List.contains_iff_mem.mpr hid)]
  | expand hid hfollow hsteps =>
    rw [search, dif_neg (mt List.contains_iff_mem.mp hid), if_pos hfollow]
    split
    · next hnone => cases hsteps.symm.trans hnone
    · next hsome =>
      cases hsteps.symm.trans hsome
      rfl
  | visit hid hfollow =>
    rw [search, dif_neg (mt List.contains_iff_mem.mp hid), if_neg (Bool.eq_false_iff.mp hfollow)]

theorem search_of_end {f : Front} {r : Except Fault (List Text)}
    (h : turn adjacency follow f = .inr r) : search adjacency follow f.reached f.queue = r := by
  obtain ⟨reached, queue⟩ := f
  cases queue with
  | nil =>
    cases h
    rw [search]
  | cons id queue =>
    simp only [turn] at h
    split at h
    · cases h
    · next hid =>
      split at h
      · next hfollow =>
        rw [search, dif_neg hid, if_pos hfollow]
        split at h
        · next hnone =>
          cases h
          split
          · rfl
          · next hsome => cases hnone.symm.trans hsome
        · cases h
      · cases h

/-- How many steps the nodes have that have not been reached. -/
def unreachedSteps (adjacency : OrderedMap Text (List Step)) (reached : List Text) : Nat :=
  weightLeft adjacency.keys (fun x => !reached.contains x) (stepCount adjacency)

theorem not_contains_of_cons {id x : Text} {reached : List Text}
    (h : (!(id :: reached).contains x) = true) : (!reached.contains x) = true := by
  simp only [Bool.not_eq_true', List.contains_cons, Bool.or_eq_false_iff] at h ⊢
  exact h.2

theorem unreachedSteps_cons_le (id : Text) (reached : List Text) :
    unreachedSteps adjacency (id :: reached) ≤ unreachedSteps adjacency reached :=
  weightLeft_mono fun _ => not_contains_of_cons

/-- **A node that is reached takes its steps along.** -/
theorem unreachedSteps_cons_add_le {id : Text} {reached : List Text} {steps : List Step}
    (hid : id ∉ reached) (hsteps : adjacency.find? id = some steps) :
    unreachedSteps adjacency (id :: reached) + steps.length ≤ unreachedSteps adjacency reached := by
  rw [← stepCount_eq hsteps]
  refine weightLeft_add_le (OrderedMap.mem_keys_of_find? hsteps) ?_ ?_ fun _ => not_contains_of_cons
  · simpa using hid
  · simp

/-- How much a search has left: what is in its queue, and the steps of the nodes that it has not
reached. -/
def effort (adjacency : OrderedMap Text (List Step)) (f : Front) : Nat :=
  f.queue.length + unreachedSteps adjacency f.reached

/-- **Nothing is looked up in vain**: every id in the queue is a key of the index. -/
def LooksUp (adjacency : OrderedMap Text (List Step)) (f : Front) : Prop :=
  ∀ id ∈ f.queue, id ∈ adjacency.keys

/-- Nodes that a step leads to are keys too. -/
theorem Move.looksUp {f f' : Front} (hindex : Indexes adjacency edges)
    (h : Move adjacency follow f f') (hf : LooksUp adjacency f) : LooksUp adjacency f' := by
  cases h with
  | pass _ => exact fun q hq => hf q (List.mem_cons_of_mem _ hq)
  | visit _ _ => exact fun q hq => hf q (List.mem_cons_of_mem _ hq)
  | expand _ _ hsteps =>
    intro q hq
    rcases List.mem_append.mp hq with hold | hnew
    · exact hf q (List.mem_cons_of_mem _ hold)
    · obtain ⟨step, hstep, rfl⟩ := List.mem_map.mp hnew
      exact hindex.target_mem_keys hsteps hstep

/-- **Every turn leaves less to do.**  What the steps of a node add to the queue is no longer left
besides. -/
theorem Move.effort_lt {f f' : Front} (h : Move adjacency follow f f') :
    effort adjacency f' < effort adjacency f := by
  cases h with
  | pass _ =>
    simp only [effort, List.length_cons]
    omega
  | @expand id reached queue steps hid _ hsteps =>
    have hmoved := unreachedSteps_cons_add_le hid hsteps
    simp only [effort, List.length_append, List.length_map, List.length_cons]
    omega
  | @visit id reached queue _ _ =>
    have hle : unreachedSteps adjacency (id :: reached) ≤ unreachedSteps adjacency reached :=
      unreachedSteps_cons_le id reached
    simp only [effort, List.length_cons]
    omega

/-- **A breadth-first search ends**: no more turns than there are seeds and edges. -/
theorem endsWithin_search (hindex : Indexes adjacency edges) (follow : Text → Bool)
    {seeds : List Text} (hseeds : ∀ q ∈ seeds, q ∈ adjacency.keys) :
    Loop.EndsWithin (turn adjacency follow) ⟨[], seeds⟩ (seeds.length + edges.length)
      (LooksUp adjacency) (search adjacency follow [] seeds) := by
  have hend : Loop.EndsWithin (turn adjacency follow) ⟨[], seeds⟩ (effort adjacency ⟨[], seeds⟩)
      (LooksUp adjacency) (search adjacency follow [] seeds) := by
    refine Loop.endsWithin (fun f : Front => search adjacency follow f.reached f.queue) ?_ ?_ ?_ hseeds
    · intro f f' hf hturn
      have hmove := move_of_turn hturn
      exact ⟨hmove.looksUp hindex hf, hmove.effort_lt⟩
    · exact fun f f' hturn => (move_of_turn hturn).search_eq
    · exact fun f r => search_of_end
  refine hend.mono ?_ fun f hf => hf
  rw [← hindex.sum_stepCount]
  exact Nat.add_le_add_left weightLeft_le _

end Reach

/-! ## 4. The search for cycles, from one root after the other -/

namespace Search

/-- **Nothing is looked up in vain.**  The nodes to which the pending steps lead have colours and steps
of their own, one that is in progress is found on the path, and for every stack of steps there is the
node of the path that is given up with it. -/
structure LooksUp (adjacency : OrderedMap Text (List Step)) (s : Search) : Prop where
  coloured : ∀ steps ∈ s.pending, ∀ step ∈ steps, step.target ∈ s.colours.keys
  listed : ∀ steps ∈ s.pending, ∀ step ∈ steps, step.target ∈ adjacency.keys
  on_path : ∀ x, s.colours.find? x = some .inProgress → x ∈ s.path
  pending_length : s.pending.length = s.path.length

/-- The steps that are pending along a trail are steps of its nodes. -/
theorem Trail.target_mem_keys (hindex : Indexes adjacency edges) {colours : Colouring}
    {next : Option Text} {path taken : List Text} {pending : List (List Step)}
    (h : Trail adjacency edges colours next path taken pending) :
    ∀ steps ∈ pending, ∀ step ∈ steps, step.target ∈ adjacency.keys := by
  have hleft : ∀ {a left next}, Tried adjacency colours a left next →
      ∀ step ∈ left, step.target ∈ adjacency.keys := by
    rintro a left next ⟨tried, hfind, -⟩ step hstep
    exact hindex.target_mem_keys hfind (List.mem_append_right _ hstep)
  induction h with
  | root htried => exact List.forall_mem_singleton.mpr (hleft htried)
  | onward _ htried _ ih => exact List.forall_mem_cons.mpr ⟨hleft htried, ih⟩

/-- A sound search looks nothing up in vain. -/
theorem Sound.looksUp {s : Search} (hindex : Indexes adjacency edges)
    (h : Sound adjacency edges s) : LooksUp adjacency s := by
  have hlisted : ∀ steps ∈ s.pending, ∀ step ∈ steps, step.target ∈ adjacency.keys := by
    rcases h.trail with ⟨-, -, hpending⟩ | htrail
    · rw [hpending]
      exact fun steps hsteps => absurd hsteps List.not_mem_nil
    · exact htrail.target_mem_keys hindex
  constructor
  case coloured => exact h.keys ▸ hlisted
  case listed => exact hlisted
  case on_path => exact fun x => (h.inProgress_iff x).mp
  case pending_length => exact h.aligned.pending_length

/-- How much the nodes have left that have not been visited: to try their steps, and to give them
up. -/
def unvisitedWork (adjacency : OrderedMap Text (List Step)) (c : Colouring) : Nat :=
  weightLeft adjacency.keys (fun x => decide (c.find? x = some .unvisited))
    fun x => stepCount adjacency x + 1

theorem unvisitedWork_paint_le (c : Colouring) (id : Text) {colour : Colour}
    (h : colour ≠ .unvisited) :
    unvisitedWork adjacency (c.paint id colour) ≤ unvisitedWork adjacency c :=
  weightLeft_mono fun _ hx => decide_eq_true (Colouring.unvisited_of_paint h (of_decide_eq_true hx))

/-- **A visit takes on the work of a node.** -/
theorem unvisitedWork_visit {c : Colouring} {id : Text} {steps : List Step}
    (hid : c.find? id = some .unvisited) (hsteps : adjacency.find? id = some steps) :
    unvisitedWork adjacency (c.paint id .inProgress) + (steps.length + 1) ≤
      unvisitedWork adjacency c := by
  have hpainted : (c.paint id .inProgress).find? id = some .inProgress :=
    Colouring.find?_paint_self (Colouring.mem_keys_of_find? hid) _
  rw [← stepCount_eq hsteps]
  refine weightLeft_add_le (OrderedMap.mem_keys_of_find? hsteps) (decide_eq_true hid) ?_ ?_
  · rw [hpainted]
    rfl
  · exact fun x hx => decide_eq_true (Colouring.unvisited_of_paint (by decide) (of_decide_eq_true hx))

/-- How much a search has left: its backlog, and the work of the nodes that it has not visited. -/
def effort (adjacency : OrderedMap Text (List Step)) (s : Search) : Nat :=
  unvisitedWork adjacency s.colours + s.backlog

/-- **Every turn leaves less to do.** -/
theorem Move.effort_lt {s s' : Search} (h : Move adjacency edges s (.goOn s')) :
    effort adjacency s' < effort adjacency s := by
  unfold effort
  cases h with
  | @leave a path rest hpath hpending =>
    have hle : unvisitedWork adjacency (s.colours.paint a .done) ≤
        unvisitedWork adjacency s.colours :=
      unvisitedWork_paint_le s.colours a (by decide)
    rw [leave_eq hpath]
    simp only [backlog, hpending, List.foldr_cons, List.length_nil]
    omega
  | skip _ hpending _ =>
    simp only [backlog, hpending, List.foldr_cons, List.length_cons]
    omega
  | enter _ hpending _ hcolour hnext =>
    -- the steps of the node that is entered go from the unvisited nodes to the backlog
    have hvisit := unvisitedWork_visit hcolour hnext
    simp only [Search.enter, Edge.step, backlog, hpending, List.foldr_cons, List.length_cons]
    omega

end Search

/-- Where the search from all roots stands: between two searches, with the roots that are left, or
within the search from one of them. -/
inductive Sweep
  | between (colours : Colouring) (roots : List Text)
  | within (search : Search) (roots : List Text)

namespace Sweep

/-- One turn of the search from all roots: a root is passed over, or a search begins, goes on or
ends. -/
def turn (adjacency : OrderedMap Text (List Step)) : Sweep → Sweep ⊕ Verdict
  | .between colours [] => .inr (.clear colours)
  | .between colours (root :: roots) =>
    match colours.find? root with
    | none => .inr (.stray root)
    | some .unvisited =>
      match adjacency.find? root with
      | none => .inr (.stray root)
      | some steps => .inl (.within (.start colours root steps) roots)
    | some _ => .inl (.between colours roots)
  | .within search roots =>
    match search.turn adjacency with
    | .goOn search' => .inl (.within search' roots)
    | .stop (.clear colours) => .inl (.between colours roots)
    | .stop verdict => .inr verdict

/-- What the search from all roots comes to. -/
def verdict (adjacency : OrderedMap Text (List Step)) : Sweep → Verdict
  | .between colours roots => searchRoots adjacency colours roots
  | .within search roots =>
    match search.run adjacency with
    | .clear colours => searchRoots adjacency colours roots
    | v => v

/-- What a turn that goes on does: it passes over a root that has been visited, begins a search, takes
one on by a turn, or leaves one that has ended without a cycle. -/
inductive Move (adjacency : OrderedMap Text (List Step)) : Sweep → Sweep → Prop
  | pass {c : Colouring} {root : Text} {roots : List Text} {colour : Colour} :
      c.find? root = some colour → colour ≠ .unvisited →
        Move adjacency (.between c (root :: roots)) (.between c roots)
  | begin {c : Colouring} {root : Text} {roots : List Text} {steps : List Step} :
      c.find? root = some .unvisited → adjacency.find? root = some steps →
        Move adjacency (.between c (root :: roots)) (.within (.start c root steps) roots)
  | goOn {s s' : Search} {roots : List Text} :
      s.turn adjacency = .goOn s' → Move adjacency (.within s roots) (.within s' roots)
  | finish {s : Search} {c : Colouring} {roots : List Text} :
      s.turn adjacency = .stop (.clear c) → Move adjacency (.within s roots) (.between c roots)

theorem move_of_turn {w w' : Sweep} (h : turn adjacency w = .inl w') : Move adjacency w w' := by
  cases w with
  | between colours roots =>
    cases roots with
    | nil => cases h
    | cons root roots =>
      simp only [turn] at h
      split at h
      · cases h
      · next hcolour =>
        split at h
        · cases h
        · next hsteps =>
          cases h
          exact .begin hcolour hsteps
      · next colour hvisited hcolour =>
        cases h
        exact .pass hcolour hvisited
  | within search roots =>
    simp only [turn] at h
    split at h
    · next hturn =>
      cases h
      exact .goOn hturn
    · next hturn =>
      cases h
      exact .finish hturn
    · cases h

/-- The search from all roots goes on as the one to which a turn leads. -/
theorem Move.verdict_eq {w w' : Sweep} (h : Move adjacency w w') :
    verdict adjacency w = verdict adjacency w' := by
  cases h with
  | pass hcolour _ => simp only [verdict, searchRoots, hcolour]
  | @begin c root roots steps hcolour hsteps =>
    cases hrun : (Search.start c root steps).run adjacency <;>
      simp only [verdict, searchRoots, hcolour, hsteps, hrun]
  | goOn hturn => simp only [verdict, Search.run_of_goOn hturn]
  | finish hturn => simp only [verdict, Search.run_of_stop hturn]

theorem verdict_of_end {w : Sweep} {v : Verdict} (h : turn adjacency w = .inr v) :
    verdict adjacency w = v := by
  cases w with
  | between colours roots =>
    cases roots with
    | nil =>
      cases h
      rfl
    | cons root roots =>
      simp only [turn] at h
      split at h
      · next hcolour =>
        cases h
        simp only [verdict, searchRoots, hcolour]
      · next hcolour =>
        split at h
        · next hsteps =>
          cases h
          simp only [verdict, searchRoots, hcolour, hsteps]
        · cases h
      · cases h
  | within search roots =>
    simp only [turn] at h
    split at h
    · cases h
    · cases h
    · next hclear hturn =>
      cases h
      simp only [verdict, Search.run_of_stop hturn]

/-- The roots that are left are keys of the index, and what the search stands at is sound. -/
inductive Sound (adjacency : OrderedMap Text (List Step)) (edges : List Edge) : Sweep → Prop
  | between {c : Colouring} {roots : List Text} :
      c.Rested adjacency edges → (∀ root ∈ roots, root ∈ adjacency.keys) →
        Sound adjacency edges (.between c roots)
  | within {s : Search} {roots : List Text} :
      s.Sound adjacency edges → (∀ root ∈ roots, root ∈ adjacency.keys) →
        Sound adjacency edges (.within s roots)

/-- **Every turn keeps the search from all roots sound.** -/
theorem Move.sound {w w' : Sweep} (hindex : Indexes adjacency edges) (h : Move adjacency w w')
    (hw : Sound adjacency edges w) : Sound adjacency edges w' := by
  cases h with
  | pass _ _ =>
    cases hw with
    | between hrested hroots => exact .between hrested (List.forall_mem_cons.mp hroots).2
  | begin hcolour hsteps =>
    cases hw with
    | between hrested hroots =>
      exact .within (hrested.sound_start hcolour hsteps) (List.forall_mem_cons.mp hroots).2
  | goOn hturn =>
    cases hw with
    | within hsound hroots =>
      have hmove := hsound.move hindex
      rw [hturn] at hmove
      exact .within (hsound.goOn hindex hmove) hroots
  | finish hturn =>
    cases hw with
    | within hsound hroots =>
      have hmove := hsound.move hindex
      rw [hturn] at hmove
      cases hmove with
      | finish hpath => exact .between (hsound.rested hpath) hroots

/-- How much is left: a turn to look at each root and one to leave the search from it, and what the
search from it takes. -/
def effort (adjacency : OrderedMap Text (List Step)) : Sweep → Nat
  | .between colours roots => 2 * roots.length + Search.unvisitedWork adjacency colours
  | .within search roots => 2 * roots.length + 1 + search.effort adjacency

/-- **Every turn leaves less to do**, of whichever kind it is. -/
theorem Move.effort_lt {w w' : Sweep} (hindex : Indexes adjacency edges) (h : Move adjacency w w')
    (hw : Sound adjacency edges w) : effort adjacency w' < effort adjacency w := by
  cases h with
  | pass _ _ =>
    simp only [effort, List.length_cons]
    omega
  | begin hcolour hsteps =>
    -- the two turns that were counted for the root are this one and the one that leaves its search
    have hvisit := Search.unvisitedWork_visit hcolour hsteps
    simp only [effort, Search.effort, Search.start, Search.backlog, List.foldr_cons, List.foldr_nil,
      List.length_cons]
    omega
  | goOn hturn =>
    cases hw with
    | within hsound _ =>
      have hmove := hsound.move hindex
      rw [hturn] at hmove
      have hlt := hmove.effort_lt
      simp only [effort]
      omega
  | finish hturn =>
    cases hw with
    | within hsound _ =>
      have hmove := hsound.move hindex
      rw [hturn] at hmove
      cases hmove with
      | finish _ =>
        simp only [effort, Search.effort]
        omega

/-- **Nothing is looked up in vain.**  The roots that are left have colours and steps, and the search
from the last one looks nothing up in vain. -/
def LooksUp (adjacency : OrderedMap Text (List Step)) : Sweep → Prop
  | .between colours roots => ∀ root ∈ roots, root ∈ colours.keys ∧ root ∈ adjacency.keys
  | .within search roots =>
    (∀ root ∈ roots, root ∈ search.colours.keys ∧ root ∈ adjacency.keys) ∧ search.LooksUp adjacency

theorem Sound.looksUp {w : Sweep} (hindex : Indexes adjacency edges) (h : Sound adjacency edges w) :
    LooksUp adjacency w := by
  cases h with
  | between hrested hroots =>
    exact fun root hroot => ⟨hrested.keys ▸ hroots root hroot, hroots root hroot⟩
  | within hsound hroots =>
    refine ⟨fun root hroot => ⟨hsound.keys ▸ hroots root hroot, hroots root hroot⟩, ?_⟩
    exact hsound.looksUp hindex

/-- **The search from all roots ends**: each root takes three turns at most, and each edge one. -/
theorem endsWithin_searchRoots (hindex : Indexes adjacency edges) {c : Colouring}
    (hc : c.Rested adjacency edges) :
    Loop.EndsWithin (turn adjacency) (.between c adjacency.keys)
      (3 * adjacency.keys.length + edges.length) (LooksUp adjacency)
      (searchRoots adjacency c adjacency.keys) := by
  have hend : Loop.EndsWithin (turn adjacency) (.between c adjacency.keys)
      (effort adjacency (.between c adjacency.keys)) (Sound adjacency edges)
      (searchRoots adjacency c adjacency.keys) := by
    refine Loop.endsWithin (verdict adjacency) ?_ ?_ ?_ (.between hc fun root hroot => hroot)
    · intro w w' hw hturn
      have hmove := move_of_turn hturn
      exact ⟨hmove.sound hindex hw, hmove.effort_lt hindex hw⟩
    · exact fun w w' hturn => (move_of_turn hturn).verdict_eq
    · exact fun w v => verdict_of_end
  refine hend.mono ?_ fun w hw => hw.looksUp hindex
  have hwork : Search.unvisitedWork adjacency c ≤ edges.length + adjacency.keys.length := by
    refine weightLeft_le.trans (Nat.le_of_eq ?_)
    rw [List.sum_map_add, hindex.sum_stepCount, List.map_const', List.sum_replicate,
      smul_eq_mul, Nat.mul_one]
  simp only [effort]
  omega

end Sweep

/-! ## 5. Snapshots -/

namespace Snapshot

theorem Consistent.endsWithin_searchCycle {s : Snapshot} (h : s.Consistent) (ignore : Bool) :
    Loop.EndsWithin (Sweep.turn (s.traversable ignore)) (.between (.start s) s.nodes.keys)
      (3 * s.nodes.size + (s.retained ignore).length) (Sweep.LooksUp (s.traversable ignore))
      (s.searchCycle ignore) := by
  have hkeys := h.traversable_keys ignore
  have hsize : s.nodes.size = s.nodes.keys.length := (List.length_map _).symm
  have hend := Sweep.endsWithin_searchRoots (h.indexes_traversable ignore) (h.rested_start ignore)
  rw [hkeys, ← hsize] at hend
  exact hend

theorem Consistent.endsWithin_reachedFrom {s : Snapshot} (h : s.Consistent) {seeds : List Text}
    (hseeds : ∀ q ∈ seeds, q ∈ s.nodes.keys) (follow : Text → Bool) :
    Loop.EndsWithin (Reach.turn s.adjacency follow) ⟨[], seeds⟩ (seeds.length + s.edges.length)
      (Reach.LooksUp s.adjacency) (s.reachedFrom seeds follow) := by
  rw [← h.adjacency_keys] at hseeds
  exact Reach.endsWithin_search h.indexes_adjacency follow hseeds

/-- **Both searches of a snapshot end, and find whatever they look up.**  The search for cycles takes three
turns for a node and one for a retained edge at most, the breadth-first search one for a seed and one
for an edge; neither comes to a state in which the next id is missing from a map or from the path, so
both end with an answer. -/
theorem searches_end {nodes : Batch Node} {edges : Batch Edge} {s : Snapshot}
    (h : ofBatches nodes edges = .ok s) :
    (∀ ignore, (∃ report, s.detectCycle ignore = .ok report) ∧
      Loop.EndsWithin (Sweep.turn (s.traversable ignore)) (.between (.start s) s.nodes.keys)
        (3 * s.nodes.size + (s.retained ignore).length) (Sweep.LooksUp (s.traversable ignore))
        (s.searchCycle ignore)) ∧
    ∀ (seeds : List Text) (follow : Text → Bool), (∀ q ∈ seeds, q ∈ s.nodes.keys) →
      (∃ reached, s.reachedFrom seeds follow = .ok reached) ∧
      Loop.EndsWithin (Reach.turn s.adjacency follow) ⟨[], seeds⟩ (seeds.length + s.edges.length)
        (Reach.LooksUp s.adjacency) (s.reachedFrom seeds follow) := by
  have hs := consistent_of_ofBatches h
  refine ⟨fun ignore => ⟨hs.exists_detectCycle ignore, hs.endsWithin_searchCycle ignore⟩,
    fun seeds follow hseeds => ⟨?_, hs.endsWithin_reachedFrom hseeds follow⟩⟩
  obtain ⟨reached, hreached, -⟩ :=
    Reach.search_spec hs.indexes_adjacency follow (hs.adjacency_keys ▸ hseeds)
  exact ⟨reached, hreached⟩

/-- Two nodes, two edges from the first to the second, one from the second to itself, and one back. -/
def tangledCanvas : Batch Node × Batch Edge :=
  (.entries [.built ⟨"fetch", "", [], none, none⟩, .built ⟨"store", "", [], none, none⟩],
    .entries [.built ⟨"1", "fetch", "store", none, none⟩, .built ⟨"2", "fetch", "store", none, none⟩,
      .built ⟨"3", "store", "store", none, none⟩, .built ⟨"4", "store", "fetch", none, none⟩])

/-- The graph of that canvas. -/
def tangledSnapshot : Snapshot :=
  ofReadings [.node ⟨"fetch", "", [], none, none⟩, .node ⟨"store", "", [], none, none⟩]
    [some ⟨"1", "fetch", "store", none, none⟩, some ⟨"2", "fetch", "store", none, none⟩,
      some ⟨"3", "store", "store", none, none⟩, some ⟨"4", "store", "fetch", none, none⟩]

/-- On that canvas the one search meets the edge from the second node to itself, and the other goes
through both nodes. -/
theorem searches_end_tangled :
    ofBatches tangledCanvas.1 tangledCanvas.2 = .ok tangledSnapshot ∧
      (∀ q ∈ (["store", "store"] : List Text), q ∈ tangledSnapshot.nodes.keys) ∧
      Loop.EndsWithin (Sweep.turn (tangledSnapshot.traversable false))
        (.between (.start tangledSnapshot) tangledSnapshot.nodes.keys) 10
        (Sweep.LooksUp (tangledSnapshot.traversable false)) (.cycle ⟨false, ["store"], ["3"]⟩) ∧
      Loop.EndsWithin (Reach.turn tangledSnapshot.adjacency fun _ => true) ⟨[], ["store", "store"]⟩ 6
        (Reach.LooksUp tangledSnapshot.adjacency) (.ok ["fetch", "store"]) := by
  have hsnapshot : ofBatches tangledCanvas.1 tangledCanvas.2 = .ok tangledSnapshot := rfl
  have hseeds : ∀ q ∈ (["store", "store"] : List Text), q ∈ tangledSnapshot.nodes.keys := by
    decide +kernel
  obtain ⟨hcycle, hreach⟩ := searches_end hsnapshot
  have hfound : tangledSnapshot.searchCycle false = .cycle ⟨false, ["store"], ["3"]⟩ := by cbv
  have hreached : tangledSnapshot.reachedFrom ["store", "store"] (fun _ => true) =
      .ok ["fetch", "store"] := by
    cbv
  have hsweep := (hcycle false).2
  have hsearch := (hreach ["store", "store"] (fun _ => true) hseeds).2
  rw [hfound] at hsweep
  rw [hreached] at hsearch
  exact ⟨hsnapshot, hseeds, hsweep, hsearch⟩

end Snapshot

end WorkflowGate
