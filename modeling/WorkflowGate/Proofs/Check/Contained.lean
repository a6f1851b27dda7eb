/-
# What a failing check leaves alone

Refinements are the caller's own functions, any number of them for a kind, and any of them may fail on any
node.  A failure is contained: it is one warning on its node, where the findings of the check would have
stood, and everything else is as it would be without it.  There is one failure that is not: the log has to
tell of it, and where the name of the refinement or the reason cannot be put in words, the run stops.

The log is the only other place where a failure shows.  `Run.Mirrors` says that a computation goes on as
another one does, in the same resolver and to the same faults, whatever is logged on the way, and makes
its value of the other's.  The check with failures goes on as `Snapshot.judge` does, which asks no
refinement at all, but that it must pass a test at every node: there the failures are told of
(`Run.checked`).

* `Mirrors.bind`, `Mirrors.mapM`: what is put together of such computations goes on as its parts do;
* `execute_mapM_checked_iff`, `execute_mapM_checked_error`: what tests at every member of a list change;
* `Snapshot.mirrors_fieldFindings`: **refinements only add to what the schemas say**, node by node, and
  never change how a run goes on but where a failure cannot be told of;
* `Snapshot.fieldFindings_contained`: so a check that fails is one that gives the warning, **exactly as long
  as the log can tell of the failure**.
-/
import WorkflowGate.Proofs.Check.Refined
import WorkflowGate.Proofs.Hindsight

namespace WorkflowGate

open Result Run

/-! ## 1. Computations that differ in the log -/

namespace Run

variable {α β γ δ : Type}

/-- **A computation goes on as another one does**, whatever the two write to the log, and makes its value
of the other's. -/
def Mirrors (f : β → α) (m : Run α) (m' : Run β) : Prop :=
  ∀ st st' : RunState, st.resolver = st'.resolver →
    (m.execute st).1 = f <$> (m'.execute st').1 ∧
      (m.execute st).2.resolver = (m'.execute st').2.resolver

theorem mirrors_pure (f : β → α) (b : β) : Mirrors f (pure (f b)) (pure b) := fun _ _ h => ⟨rfl, h⟩

theorem mirrors_lift (x : Except Fault α) : Mirrors id (lift x) (lift x) := by
  intro st st' h
  cases x <;> exact ⟨rfl, h⟩

theorem mirrors_resolve (kind : Text) : Mirrors id (resolve kind) (resolve kind) := by
  intro st st' h
  rw [execute_resolve, execute_resolve, h, id_map]
  exact ⟨rfl, rfl⟩

theorem mirrors_rejectedKinds : Mirrors id rejectedKinds rejectedKinds := by
  intro st st' h
  refine ⟨?_, h⟩
  show Except.ok st.resolver.rejected = id <$> Except.ok st'.resolver.rejected
  rw [h, id_map]

theorem Mirrors.bind {f : β → α} {g : δ → γ} {m : Run α} {m' : Run β} {k : α → Run γ} {k' : β → Run δ}
    (hm : Mirrors f m m') (hk : ∀ b, Mirrors g (k (f b)) (k' b)) : Mirrors g (m >>= k) (m' >>= k') := by
  intro st st' h
  obtain ⟨hresult, hresolver⟩ := hm st st' h
  rw [execute_bind, execute_bind]
  generalize m.execute st = ended at hresult hresolver
  generalize m'.execute st' = ended' at hresult hresolver
  obtain ⟨x, st₁⟩ := ended
  obtain ⟨y, st₂⟩ := ended'
  obtain rfl : x = f <$> y := hresult
  cases y with
  | error fault => exact ⟨rfl, hresolver⟩
  | ok b => exact hk b st₁ st₂ hresolver

theorem Mirrors.map {f : β → α} {m : Run α} {m' : Run β} (hm : Mirrors f m m') (g : α → γ) :
    Mirrors (g ∘ f) (g <$> m) m' := by
  rw [map_eq_pure_bind, ← bind_pure m']
  exact hm.bind fun b => mirrors_pure (g ∘ f) b

/-- Two lists are gone through alike when their members are. -/
theorem Mirrors.mapM {f : β → α} {m : δ → Run α} {m' : δ → Run β} (h : ∀ x, Mirrors f (m x) (m' x))
    (xs : List δ) : Mirrors (List.map f) (xs.mapM m) (xs.mapM m') := by
  induction xs with
  | nil =>
    rw [List.mapM_nil, List.mapM_nil]
    exact mirrors_pure (List.map f) []
  | cons x rest ih =>
    rw [List.mapM_cons, List.mapM_cons]
    refine (h x).bind fun b => ih.bind fun bs => ?_
    rw [← List.map_cons]
    exact mirrors_pure (List.map f) (b :: bs)

/-- Members of a list that are left out add nothing. -/
theorem flatten_mapM_ite {skip : α → Bool} {m : α → Run (List β)} (xs : List α) :
    List.flatten <$> (xs.mapM fun x => if skip x then pure [] else m x) =
      List.flatten <$> (xs.filter fun x => !skip x).mapM m := by
  induction xs with
  | nil => rfl
  | cons x rest ih =>
    have hcons (first : Run (List β)) (rest : Run (List (List β))) :
        List.flatten <$> (first >>= fun b => rest >>= fun bs => pure (b :: bs)) =
          first >>= fun b => (b ++ ·) <$> List.flatten <$> rest := by
      simp only [map_eq_pure_bind, bind_assoc, pure_bind, List.flatten_cons]
    rw [List.mapM_cons, hcons, ih, List.filter_cons]
    cases skip x with
    | true =>
      simp only [if_true, pure_bind, List.nil_append, id_map', Bool.not_true, Bool.false_eq_true, if_false]
    | false =>
      simp only [Bool.false_eq_true, if_false, Bool.not_false, if_true]
      rw [List.mapM_cons, hcons]

/-! ## 2. Computations with a test -/

/-- A computation whose value must pass a test. -/
def checked (test : α → Except Fault Unit) (m : Run α) : Run α := do
  let a ← m
  lift (test a)
  return a

variable {test : α → Except Fault Unit} {m : δ → Run α} {xs : List δ} {st left : RunState}

/-- A test that every value passes changes nothing. -/
theorem checked_of_ok (h : ∀ a, test a = .ok ()) (m : Run α) : m.checked test = m := by
  have htest (a : α) : lift (test a) = pure () := by rw [h a]; rfl
  simp only [checked, htest, pure_bind, bind_pure]

theorem execute_checked (test : α → Except Fault Unit) (m : Run α) (st : RunState) :
    (m.checked test).execute st =
      match m.execute st with
      | (.ok a, st') => ((fun _ => a) <$> test a, st')
      | (.error f, st') => (.error f, st') := by
  rw [checked, execute_bind]
  rcases m.execute st with ⟨f | a, st'⟩
  · rfl
  · dsimp only
    cases test a <;> rfl

theorem execute_mapM_cons_iff {x : δ} {rest : List δ} {as : List α} :
    ((x :: rest).mapM m).execute st = (.ok as, left) ↔
      ∃ a others st₁, as = a :: others ∧ (m x).execute st = (.ok a, st₁) ∧
        (rest.mapM m).execute st₁ = (.ok others, left) := by
  rw [List.mapM_cons, execute_bind]
  rcases (m x).execute st with ⟨f | a, st₁⟩
  · exact iff_of_false nofun (by rintro ⟨_, _, _, _, ⟨⟩, _⟩)
  · dsimp only
    rw [execute_bind]
    constructor
    · intro h
      rcases hrest : (rest.mapM m).execute st₁ with ⟨f | others, st₂⟩
      · rw [hrest] at h
        cases h
      · rw [hrest] at h
        cases h
        exact ⟨a, others, st₁, rfl, rfl, hrest⟩
    · rintro ⟨_, others, _, rfl, ⟨⟩, hrest⟩
      rw [hrest]
      rfl

theorem execute_checked_iff {m : Run α} {a : α} :
    (m.checked test).execute st = (.ok a, left) ↔ m.execute st = (.ok a, left) ∧ Succeeds (test a) := by
  rw [execute_checked]
  rcases m.execute st with ⟨f | b, st'⟩
  · exact iff_of_false nofun fun h => nomatch h.1
  · constructor
    · intro h
      obtain ⟨hvalue, rfl⟩ := Prod.mk.inj h
      obtain ⟨_, htest, rfl⟩ := map_eq_ok_iff.mp hvalue
      exact ⟨rfl, _, htest⟩
    · rintro ⟨⟨⟩, _, htest⟩
      simp only [htest]
      rfl

theorem execute_checked_error {m : Run α} {f : Fault}
    (h : (m.checked test).execute st = (.error f, left)) :
    m.execute st = (.error f, left) ∨ ∃ a, m.execute st = (.ok a, left) ∧ test a = .error f := by
  rw [execute_checked] at h
  rcases hm : m.execute st with ⟨f' | a, st'⟩
  · rw [hm] at h
    cases h
    exact .inl rfl
  · rw [hm] at h
    obtain ⟨hvalue, rfl⟩ := Prod.mk.inj h
    refine .inr ⟨a, rfl, ?_⟩
    cases htest : test a with
    | ok _ =>
      rw [htest] at hvalue
      cases hvalue
    | error f' =>
      rw [htest] at hvalue
      cases hvalue
      rfl

/-- **With a test at every member a list is gone through to the same end if all values pass.** -/
theorem execute_mapM_checked_iff {as : List α} :
    (xs.mapM fun x => (m x).checked test).execute st = (.ok as, left) ↔
      (xs.mapM m).execute st = (.ok as, left) ∧ ∀ a ∈ as, Succeeds (test a) := by
  induction xs generalizing st as with
  | nil =>
    rw [List.mapM_nil, List.mapM_nil]
    refine ⟨fun h => ⟨h, ?_⟩, And.left⟩
    cases h
    exact List.forall_mem_nil _
  | cons x rest ih =>
    rw [execute_mapM_cons_iff, execute_mapM_cons_iff]
    constructor
    · rintro ⟨a, others, st₁, rfl, hfirst, hrest⟩
      obtain ⟨hfirst, htest⟩ := execute_checked_iff.mp hfirst
      obtain ⟨hrest, htests⟩ := ih.mp hrest
      exact ⟨⟨a, others, st₁, rfl, hfirst, hrest⟩, List.forall_mem_cons.mpr ⟨htest, htests⟩⟩
    · rintro ⟨⟨a, others, st₁, rfl, hfirst, hrest⟩, htests⟩
      obtain ⟨htest, htests⟩ := List.forall_mem_cons.mp htests
      exact ⟨a, others, st₁, rfl, execute_checked_iff.mpr ⟨hfirst, htest⟩, ih.mpr ⟨hrest, htests⟩⟩

/-- **It stops with a fault that there would be anyway, or at the first value that does not pass.** -/
theorem execute_mapM_checked_error {f : Fault}
    (h : (xs.mapM fun x => (m x).checked test).execute st = (.error f, left)) :
    (xs.mapM m).execute st = (.error f, left) ∨
      ∃ x ∈ xs, ∃ st₁ a, (m x).execute st₁ = (.ok a, left) ∧ test a = .error f := by
  induction xs generalizing st with
  | nil => cases h
  | cons x rest ih =>
    rw [List.mapM_cons, execute_bind] at h
    rcases hfirst : ((m x).checked test).execute st with ⟨f' | a, st₁⟩
    · rw [hfirst] at h
      cases h
      rcases execute_checked_error hfirst with hown | ⟨a, hrun, htest⟩
      · refine .inl ?_
        rw [List.mapM_cons, execute_bind, hown]
      · exact .inr ⟨x, List.mem_cons_self, st, a, hrun, htest⟩
    · rw [hfirst] at h
      obtain ⟨hrun, -⟩ := execute_checked_iff.mp hfirst
      dsimp only at h
      rw [execute_bind] at h
      rcases hrest : (rest.mapM fun x => (m x).checked test).execute st₁ with ⟨f' | others, st₂⟩
      · rw [hrest] at h
        cases h
        rcases ih hrest with hown | ⟨y, hy, hstop⟩
        · refine .inl ?_
          rw [List.mapM_cons, execute_bind, hrun]
          dsimp only
          rw [execute_bind, hown]
        · exact .inr ⟨y, List.mem_cons_of_mem _ hy, hstop⟩
      · rw [hrest] at h
        cases h

end Run

/-! ## 3. Refinements in place of others -/

namespace Refinement

/-- The refinement with the warning in place of every failure. -/
def contained (r : Refinement) : Refinement := { r with check := fun n schema => .ok (r.said n schema) }

/-- The refinement that owns the same fields and finds nothing. -/
def quiet (r : Refinement) : Refinement := { r with check := fun _ _ => .ok [] }

end Refinement

namespace RefinementRegistry

variable (g : RefinementRegistry)

/-- A registry with every refinement replaced. -/
def map (change : Refinement → Refinement) : RefinementRegistry :=
  ⟨g.byKind.mapValues fun _ => List.map change⟩

/-- The registry with the warning in place of every failure. -/
def contained : RefinementRegistry := g.map .contained

/-- The registry whose refinements find nothing. -/
def quiet : RefinementRegistry := g.map .quiet

variable {g}

theorem forKind_map (change : Refinement → Refinement) (kind : Text) :
    (g.map change).forKind kind = (g.forKind kind).map change := by
  rw [forKind, map, OrderedMap.find?_mapValues, forKind]
  cases g.byKind.find? kind <;> rfl

theorem ownedFields_map {change : Refinement → Refinement} (h : ∀ r, (change r).owns = r.owns) :
    (g.map change).ownedFields = g.ownedFields := by
  funext kind
  rw [ownedFields, forKind_map, List.flatMap_map, ownedFields]
  simp only [h]

/-- **In place of a failure stands what is said of it.** -/
theorem said_contained (n : Node) (schema : Option KindSchema) :
    g.contained.said n schema = g.said n schema := by
  rw [said, contained, forKind_map, List.flatMap_map]
  rfl

theorem said_quiet (n : Node) (schema : Option KindSchema) : g.quiet.said n schema = [] := by
  rw [said, quiet, forKind_map, List.flatMap_map]
  exact List.flatMap_eq_nil_iff.mpr fun _ _ => rfl

/-- There is nothing to tell of refinements that never fail. -/
theorem tells_map {change : Refinement → Refinement}
    (h : ∀ r n schema, ∃ found, (change r).check n schema = .ok found) : (g.map change).Tells := by
  intro kind r hr n schema
  rw [forKind_map] at hr
  obtain ⟨r, -, rfl⟩ := List.mem_map.mp hr
  obtain ⟨found, hfound⟩ := h r n schema
  exact ⟨(), Refinement.tell_of_ok hfound⟩

theorem tells_contained : g.contained.Tells := tells_map fun _ _ _ => ⟨_, rfl⟩

theorem tells_quiet : g.quiet.Tells := tells_map fun _ _ _ => ⟨_, rfl⟩

end RefinementRegistry

/-! ## 4. What the schemas say -/

/-- A node, the schema of its kind, and what is found on it without refinements. -/
structure Judged where
  node : Node
  schema : Option KindSchema
  general : List Finding

namespace Judged

/-- All that is found on the node. -/
def findings (j : Judged) (g : RefinementRegistry) : List Finding := j.general ++ g.said j.node j.schema

/-- Tells of the failures on the node. -/
def tell (g : RefinementRegistry) (j : Judged) : Except Fault Unit := g.tell j.node j.schema

end Judged

/-- Holds a node against the schema of its kind, leaving out the owned fields. -/
def Node.judge (n : Node) (owned : List Text) : Run Judged := do
  let schema ← Run.resolve n.kind
  let rejected ← Run.rejectedKinds
  let general ←
    match schema with
    | some s => Run.lift (n.schemaFindings owned s)
    | none => pure []
  return ⟨n, schema,
    Finding.onlyIf (schema.isNone && rejected.contains n.kind) n.unreadableSchema ++ general⟩

/-- A node is judged by the schema that is kept for its kind at the end. -/
theorem Node.yields_judge {final : Resolver} (n : Node) (owned : List Text) :
    Yields final (n.judge owned) fun j => j.node = n ∧ j.schema = final.answer n.kind := by
  refine ((yields_resolve n.kind).bind fun schema => yields_rejectedKinds.andThen fun rejected =>
    (?_ : Yields final _ fun j : Judged => j.node = n ∧ j.schema = schema)).mono ?_
  · have hlast (general : List Finding) :
        Yields final (pure (⟨n, schema, general⟩ : Judged)) fun j => j.node = n ∧ j.schema = schema :=
      yields_pure ⟨rfl, rfl⟩
    cases schema with
    | some known => exact (yields_lift (p := fun _ => True) fun _ _ => trivial).andThen fun _ => hlast _
    | none => exact (yields_pure (p := fun _ => True) trivial).andThen fun _ => hlast _
  · rintro j ⟨schema, ⟨hschema, -⟩, hnode, hj⟩
    exact ⟨hnode, hj.trans hschema⟩

/-- What refinements say is known beforehand, once their failures are told of. -/
theorem Node.mirrors_refinementFindings (n : Node) (g : RefinementRegistry)
    (schema : Option KindSchema) :
    Mirrors (fun _ => g.said n schema) (n.refinementFindings g schema) (lift (g.tell n schema)) := by
  intro st st' h
  obtain ⟨records, hrun⟩ := n.execute_refinementFindings g schema st
  rw [hrun]
  cases g.tell n schema <;> exact ⟨rfl, h⟩

/-- The check of a node goes on as the judgement on it does, with the failures to be told of. -/
theorem Node.mirrors_fieldFindings (n : Node) (g : RefinementRegistry) :
    Mirrors (fun j => j.findings g) (n.fieldFindings g)
      ((n.judge (g.ownedFields n.kind)).checked (Judged.tell g)) := by
  simp only [checked, judge, bind_assoc]
  refine (mirrors_resolve n.kind).bind fun schema => ?_
  refine mirrors_rejectedKinds.bind fun rejected => ?_
  have hrefined (general : List Finding) :
      Mirrors (fun j : Judged => j.findings g)
        (do return general ++ (← n.refinementFindings g schema))
        (lift (g.tell n schema) >>= fun _ => pure ⟨n, schema, general⟩) :=
    (n.mirrors_refinementFindings g schema).bind fun _ =>
      mirrors_pure (fun j : Judged => j.findings g) ⟨n, schema, general⟩
  cases schema with
  | some known =>
    simp only [id_eq, bind_assoc, pure_bind]
    refine (mirrors_lift _).bind fun general => ?_
    exact hrefined (_ ++ general)
  | none =>
    simp only [id_eq, pure_bind]
    exact hrefined (_ ++ [])

namespace Snapshot

variable (s : Snapshot)

/-- Holds all nodes that have a kind against the schemas of their kinds. -/
def judge (owned : Text → List Text) : Run (List Judged) :=
  (s.nodeList.filter fun n => !n.kind.isEmpty).mapM fun n => n.judge (owned n.kind)

/-- The same, and tells of all failures on a node before it goes on to the next. -/
def judgeTelling (g : RefinementRegistry) : Run (List Judged) :=
  (s.nodeList.filter fun n => !n.kind.isEmpty).mapM fun n =>
    (n.judge (g.ownedFields n.kind)).checked (Judged.tell g)

/-- **The check of all fields goes on as the judgement on them does**, with the failures to be told of.
What refinements say stands after what the schema says of each node. -/
theorem mirrors_fieldFindings (g : RefinementRegistry) :
    Mirrors (List.flatMap fun j => j.findings g) (s.fieldFindings g) (s.judgeTelling g) := by
  have hnodes := Mirrors.mapM (fun n : Node => n.mirrors_fieldFindings g)
    (s.nodeList.filter fun n => !n.kind.isEmpty)
  rw [fieldFindings, flatten_mapM_ite]
  exact hnodes.map List.flatten

/-- Where all failures can be told of, there is nothing but the judgement. -/
theorem judgeTelling_of_tells {g : RefinementRegistry} (h : g.Tells) :
    s.judgeTelling g = s.judge g.ownedFields := by
  rw [judgeTelling, judge]
  have htell (j : Judged) : j.tell g = .ok () := h.tell_eq j.node j.schema
  simp only [checked_of_ok htell]

/-- The nodes that have a kind are judged one after the other. -/
theorem yields_judge (final : Resolver) (owned : Text → List Text) :
    Yields final (s.judge owned) fun judged =>
      List.Forall₂ (fun n (j : Judged) => j.node = n ∧ j.schema = final.answer n.kind)
        (s.nodeList.filter fun n => !n.kind.isEmpty) judged :=
  Yields.mapM_forall₂ (fun n => n.yields_judge (owned n.kind)) _

/-! ## 5. Failures -/

/-- What holds of all nodes that were judged, each with the schema that is kept for its kind. -/
theorem forall_judged_iff {final : Resolver} {ns : List Node} {judged : List Judged}
    {p : Node → Option KindSchema → Prop}
    (h : List.Forall₂ (fun n (j : Judged) => j.node = n ∧ j.schema = final.answer n.kind) ns judged) :
    (∀ j ∈ judged, p j.node j.schema) ↔ ∀ n ∈ ns, p n (final.answer n.kind) := by
  induction h with
  | nil => exact iff_of_true (List.forall_mem_nil _) (List.forall_mem_nil _)
  | cons hfirst _ ih =>
    obtain ⟨rfl, hschema⟩ := hfirst
    rw [List.forall_mem_cons, List.forall_mem_cons, ih, hschema]

/-- **All nodes are gone through if they can be judged and all failures told of.** -/
theorem execute_judgeTelling_iff {g : RefinementRegistry} {st left : RunState} {judged : List Judged} :
    (s.judgeTelling g).execute st = (.ok judged, left) ↔
      (s.judge g.ownedFields).execute st = (.ok judged, left) ∧
        ∀ n ∈ s.nodeList, n.kind.isEmpty = false → ∀ r ∈ g.forKind n.kind, ∀ reason,
          r.check n (left.resolver.answer n.kind) = .error reason →
            Succeeds r.name ∧ Succeeds reason := by
  rw [judgeTelling, execute_mapM_checked_iff]
  refine and_congr_right fun hrun => ?_
  have hjudged := (s.yields_judge left.resolver g.ownedFields st judged left hrun).2 (.refl _)
  refine (forall_judged_iff (p := fun n schema => Succeeds (g.tell n schema)) hjudged).trans ?_
  simp only [List.mem_filter, Bool.not_eq_true', and_imp, RefinementRegistry.succeeds_tell_iff,
    Refinement.succeeds_tell_iff]

/-- **What stops the check of a node behind the judgement is a failure that cannot be told of.** -/
theorem execute_judgeTelling_error {g : RefinementRegistry} {st left : RunState} {f : Fault}
    (h : (s.judgeTelling g).execute st = (.error f, left)) :
    (s.judge g.ownedFields).execute st = (.error f, left) ∨
      ∃ n ∈ s.nodeList, n.kind.isEmpty = false ∧ ∃ r ∈ g.forKind n.kind, ∃ reason,
        r.check n (left.resolver.answer n.kind) = .error reason ∧
          (r.name = .error f ∨ Succeeds r.name ∧ reason = .error f) := by
  refine (execute_mapM_checked_error h).imp_right ?_
  rintro ⟨n, hn, st₁, j, hrun, htell⟩
  obtain ⟨hmem, hkind⟩ := List.mem_filter.mp hn
  obtain ⟨rfl, hschema⟩ := (n.yields_judge _ st₁ j left hrun).2 (.refl _)
  obtain ⟨r, hr, hfailure⟩ := RefinementRegistry.exists_of_tell_eq_error htell
  rw [hschema] at hfailure
  exact ⟨j.node, hmem, by simpa using hkind, r, hr, Refinement.tell_eq_error_iff.mp hfailure⟩

/-- **A check that fails is one that gives the warning, as long as the log can tell of it.**  Against the
same refinements with warnings in place of their failures, the check of the fields ends with findings just
when those would and every failure has a name and a reason to put in words; what stops it otherwise is
what would stop those, or the fault of putting such a name or reason in words.  Where there are findings,
they are the same, in the same order, and as much has been resolved: the findings of refinements that find
nothing, and after those on each node what its refinements say of it, one after the other. -/
theorem fieldFindings_contained (g : RefinementRegistry) (st : RunState) :
    let run := (s.fieldFindings g).execute st
    let tamed := (s.fieldFindings g.contained).execute st
    (Succeeds run.1 ↔ Succeeds tamed.1 ∧
      ∀ n ∈ s.nodeList, n.kind.isEmpty = false → ∀ r ∈ g.forKind n.kind, ∀ reason,
        r.check n (tamed.2.resolver.answer n.kind) = .error reason →
          Succeeds r.name ∧ Succeeds reason) ∧
    (∀ f, run.1 = .error f → tamed.1 = .error f ∨
      ∃ n ∈ s.nodeList, n.kind.isEmpty = false ∧ ∃ r ∈ g.forKind n.kind, ∃ reason,
        r.check n (run.2.resolver.answer n.kind) = .error reason ∧
          (r.name = .error f ∨ Succeeds r.name ∧ reason = .error f)) ∧
    ∀ found, run.1 = .ok found →
      tamed.1 = .ok found ∧ run.2.resolver = tamed.2.resolver ∧
      ∃ judged : List Judged,
        List.Forall₂ (fun n (j : Judged) => j.node = n ∧ j.schema = run.2.resolver.answer n.kind)
          (s.nodeList.filter fun n => !n.kind.isEmpty) judged ∧
        ((s.fieldFindings g.quiet).execute st).1 = .ok (judged.flatMap fun j => j.general) ∧
        found = judged.flatMap fun j =>
          j.general ++ (g.forKind j.node.kind).flatMap fun r => r.said j.node j.schema := by
  intro run tamed
  obtain ⟨hrun, hrunResolver⟩ := s.mirrors_fieldFindings g st st rfl
  obtain ⟨htamed, htamedResolver⟩ := s.mirrors_fieldFindings g.contained st st rfl
  obtain ⟨hquiet, -⟩ := s.mirrors_fieldFindings g.quiet st st rfl
  -- the judgement leaves out the owned fields, and no replacement changes which these are
  have howned : g.contained.ownedFields = g.ownedFields :=
    RefinementRegistry.ownedFields_map fun _ => rfl
  have hownedQuiet : g.quiet.ownedFields = g.ownedFields :=
    RefinementRegistry.ownedFields_map fun _ => rfl
  rw [s.judgeTelling_of_tells RefinementRegistry.tells_contained, howned] at htamed htamedResolver
  rw [s.judgeTelling_of_tells RefinementRegistry.tells_quiet, hownedQuiet] at hquiet
  simp only [Judged.findings, RefinementRegistry.said_contained, RefinementRegistry.said_quiet,
    List.append_nil] at hrun htamed hquiet
  refine ⟨⟨?_, ?_⟩, ?_, ?_⟩
  · rintro ⟨found, hfound⟩
    obtain ⟨judged, hjudged, -⟩ := map_eq_ok_iff.mp (hrun.symm.trans hfound)
    obtain ⟨hjudge, htold⟩ := s.execute_judgeTelling_iff.mp (Prod.ext hjudged rfl)
    rw [hjudge] at htamed htamedResolver
    exact ⟨⟨_, htamed⟩, htamedResolver ▸ htold⟩
  · rintro ⟨⟨found, hfound⟩, htold⟩
    obtain ⟨judged, hjudged, -⟩ := map_eq_ok_iff.mp (htamed.symm.trans hfound)
    rw [htamedResolver] at htold
    have htelling := s.execute_judgeTelling_iff.mpr ⟨Prod.ext hjudged rfl, htold⟩
    rw [htelling] at hrun
    exact ⟨_, hrun⟩
  · intro f hf
    rcases htelling : (s.judgeTelling g).execute st with ⟨f' | judged, left⟩
    · rw [htelling] at hrun hrunResolver
      obtain rfl : f' = f := Except.error.inj (hrun.symm.trans hf)
      rw [hrunResolver]
      refine (s.execute_judgeTelling_error htelling).imp_left fun hjudge => ?_
      rw [hjudge] at htamed
      exact htamed
    · rw [htelling] at hrun
      exact nomatch hrun.symm.trans hf
  · intro found hfound
    obtain ⟨judged, hjudged, rfl⟩ := map_eq_ok_iff.mp (hrun.symm.trans hfound)
    obtain ⟨hjudge, -⟩ := s.execute_judgeTelling_iff.mp (Prod.ext hjudged rfl)
    have hyields := (s.yields_judge _ g.ownedFields st judged _ hjudge).2 (.refl _)
    rw [hjudge] at htamed htamedResolver hquiet
    refine ⟨htamed, hrunResolver.trans htamedResolver.symm, judged, hrunResolver ▸ hyields, hquiet, rfl⟩

/-- A check that fails on one node, and one after it that has something to say of every node. -/
def brittle : RefinementRegistry :=
  (({} : RefinementRegistry).register ["set"]
    { name := .ok "breaks",
      check := fun n _ => if n.id = "a" then .error (.ok "broken") else .ok [] }).register
    ["set"] { name := .ok "notes", check := fun n _ => .ok [.warning .missingBody "noted" n.id] }

/-- Two nodes of its kind, and one that has no kind. -/
def threeNodes : Snapshot :=
  Snapshot.ofReadings [.node ⟨"a", "set", [], none, none⟩, .node ⟨"x", "", [], none, none⟩,
    .node ⟨"b", "set", [], none, none⟩] []

/-- The failure is one warning on its node, in front of what the other check says. -/
theorem fieldFindings_contained_brittle :
    let found : List Finding := [Refinement.failureFinding ⟨"a", "set", [], none, none⟩,
      .warning .missingBody "noted" (some "a"), .warning .missingBody "noted" (some "b")]
    ((threeNodes.fieldFindings brittle.contained).execute (Run.begin .builtin none)).1 = .ok found ∧
      ∃ judged : List Judged, judged.length = 2 ∧ found = judged.flatMap fun j =>
        j.general ++ (brittle.forKind j.node.kind).flatMap fun r => r.said j.node j.schema := by
  intro found
  obtain ⟨-, -, hspelled⟩ := threeNodes.fieldFindings_contained brittle (Run.begin .builtin none)
  have hrun : ((threeNodes.fieldFindings brittle).execute (Run.begin .builtin none)).1 = .ok found := by
    rfl
  obtain ⟨htamed, -, judged, hnodes, -, hfound⟩ := hspelled found hrun
  exact ⟨htamed, judged, hnodes.length_eq.symm, hfound⟩

/-- A check that fails on every node with an integer that cannot be written. -/
def unspeakable : RefinementRegistry :=
  ({} : RefinementRegistry).register ["set"]
    { name := .ok "breaks", check := fun _ _ => .error (.error .integerTooLong) }

/-- **A failure that cannot be told of is not contained**: the warning in its place would stand on both
nodes, but the run stops. -/
theorem fieldFindings_unspeakable :
    ((threeNodes.fieldFindings unspeakable).execute (Run.begin .builtin none)).1 =
        .error .integerTooLong ∧
      ((threeNodes.fieldFindings unspeakable.contained).execute (Run.begin .builtin none)).1 =
        .ok [Refinement.failureFinding ⟨"a", "set", [], none, none⟩,
          Refinement.failureFinding ⟨"b", "set", [], none, none⟩] :=
  ⟨rfl, rfl⟩

end Snapshot

end WorkflowGate
