/-
# Runs whose lookup answers steadily

Where the same question is always answered alike, what a run computes does not depend on what has
been resolved before.  `Computes` says so and names the result; results are put together as the
computations are.  `EndsIff` keeps of the result only when there is one.

* `steady_begin_tableOf`: a run begins with such a resolver when its lookup, if it has one, answers a kind
  the same way each time;
* `Steady.resolve_spec`: a resolver that answers by a table gives what the table says, and goes on
  doing so;
* `Steady.categoryFor_eq`: so what a run leaves resolved is what the table says;
* `computes_resolve`, `computes_resolve_rejected`, `computes_categoryOf`: the results of questions;
* `EndsIff.bind`, `EndsIff.mapM`: what is put together ends with a value when its parts do.
-/
import WorkflowGate.Proofs.Resolution
import WorkflowGate.Proofs.Result

namespace WorkflowGate

open Result

namespace Resolver

/-! ## 1. Lookups that answer steadily -/

/-- **Loading goes by a table of answers**, and so does what is kept.  A kind counts as rejected once
it has been resolved to an answer that was. -/
structure Steady (registry : Registry) (answers : Text → Except Fault Loaded) (r : Resolver) : Prop where
  registry_eq : r.registry = registry
  load_eq : ∀ asked kind, Resolver.load { r with asked := asked } kind = answers kind
  kept : ∀ kind schema, r.cache.find? kind = some schema →
    ∃ loaded, answers kind = .ok loaded ∧ loaded.schema = schema
  rejected_iff : ∀ kind, r.rejected.contains kind = true ↔
    r.cache.contains kind = true ∧ ∃ loaded, answers kind = .ok loaded ∧ loaded.rejection.isSome

/-- The schema of a kind by a table of answers. -/
def schemaFor (answers : Text → Except Fault Loaded) (kind : Text) :
    Except Fault (Option KindSchema) :=
  if kind.isEmpty then .ok none else Loaded.schema <$> answers kind

/-- The category of a kind by a table of answers. -/
def categoryFor (registry : Registry) (answers : Text → Except Fault Loaded) (kind : Text) :
    Except Fault KindCategory :=
  (fun schema => (schema.map (·.category)).getD (registry.categoryOf kind)) <$>
    schemaFor answers kind

/-- The registry answers steadily where there is no lookup. -/
theorem steady_begin (registry : Registry) :
    Steady registry (fun kind => .ok ⟨registry.find? kind, none⟩)
      (Run.begin registry none).resolver where
  registry_eq := rfl
  load_eq _ _ := rfl
  kept _ _ h := by cases h
  rejected_iff kind := by simp [Run.begin, OrderedMap.contains]

/-- So does a lookup that answers a kind the same way each time. -/
theorem steady_begin_ofFunction (registry : Registry) (ask : Text → Except Fault LookupReply) :
    Steady registry (fun kind => (ask kind).bind (readReply kind))
      (Run.begin registry (some (.ofFunction ask))).resolver where
  registry_eq := rfl
  load_eq _ _ := rfl
  kept _ _ h := by cases h
  rejected_iff kind := by simp [Run.begin, OrderedMap.contains]

/-- The table of answers of a registry and a lookup that answers a kind the same way each time, if
there is one. -/
def tableOf (registry : Registry) (lookup : Option (Text → Except Fault LookupReply)) (kind : Text) :
    Except Fault Loaded :=
  match lookup with
  | none => .ok ⟨registry.find? kind, none⟩
  | some ask => (ask kind).bind (readReply kind)

/-- A run that begins with these goes by their table. -/
theorem steady_begin_tableOf (registry : Registry)
    (lookup : Option (Text → Except Fault LookupReply)) :
    Steady registry (tableOf registry lookup)
      (Run.begin registry (lookup.map .ofFunction)).resolver := by
  cases lookup with
  | none => exact steady_begin registry
  | some ask => exact steady_begin_ofFunction registry ask

variable {registry : Registry} {answers : Text → Except Fault Loaded} {r : Resolver} {kind : Text}

/-- Questions that have been asked are no part of what is kept. -/
theorem Steady.withAsked (h : Steady registry answers r) (asked : List Text) :
    Steady registry answers { r with asked := asked } :=
  ⟨h.registry_eq, h.load_eq, h.kept, h.rejected_iff⟩

/-- Keeping an answer for a kind for which none is kept. -/
theorem Steady.insert (h : Steady registry answers r) {loaded : Loaded} {asked : List Text}
    {rejected : OrderedMap Text Text} (hnew : r.cache.find? kind = none)
    (hanswer : answers kind = .ok loaded)
    (hrejected : ∀ other, rejected.contains other = true ↔
      r.rejected.contains other = true ∨ kind = other ∧ loaded.rejection.isSome) :
    Steady registry answers
      { r with asked := asked, cache := r.cache.insert kind loaded.schema, rejected := rejected } := by
  refine ⟨h.registry_eq, h.load_eq, ?_, ?_⟩
  · intro other schema hkept
    by_cases he : kind = other
    · subst he
      rw [OrderedMap.find?_insert_self] at hkept
      exact ⟨loaded, hanswer, Option.some.inj hkept⟩
    · rw [OrderedMap.find?_insert_of_ne _ _ he] at hkept
      exact h.kept other schema hkept
  · intro other
    rw [hrejected, OrderedMap.contains_insert, h.rejected_iff]
    by_cases he : kind = other
    · subst he
      have hfresh : ¬ r.cache.contains kind = true := by simp [OrderedMap.contains, hnew]
      simp [hfresh, hanswer]
    · simp [he]

/-- **A resolver that answers steadily goes on doing so, and gives what the table says.** -/
theorem Steady.resolve_spec (h : Steady registry answers r) (kind : Text) :
    (r.resolve kind).result = schemaFor answers kind ∧
      Steady registry answers (r.resolve kind).resolver := by
  have hresolved := r.resolved_resolve kind
  have hload : r.load kind = answers kind := h.load_eq r.asked kind
  generalize r.resolve kind = outcome at hresolved ⊢
  unfold schemaFor
  cases hresolved with
  | unnamed hkind =>
    subst hkind
    exact ⟨rfl, h⟩
  | @cached schema hnamed hcache =>
    obtain ⟨loaded, hanswer, rfl⟩ := h.kept kind schema hcache
    simp only [hnamed, Bool.false_eq_true, if_false, hanswer]
    exact ⟨rfl, h⟩
  | failed hnamed hcache hfailed =>
    simp only [hnamed, Bool.false_eq_true, if_false, ← hload, hfailed]
    exact ⟨rfl, h.withAsked _⟩
  | kept hnamed hcache hloaded hrejected =>
    simp only [hnamed, Bool.false_eq_true, if_false, ← hload, hloaded]
    exact ⟨rfl, h.insert hcache (hload.symm.trans hloaded) hrejected⟩

/-- Once a kind has been resolved it counts as rejected if its answer was. -/
theorem Steady.rejected_resolve (h : Steady registry answers r) (hkind : kind.isEmpty = false)
    {loaded : Loaded} (hanswer : answers kind = .ok loaded) :
    (r.resolve kind).resolver.rejected.contains kind = loaded.rejection.isSome := by
  have hafter := (h.resolve_spec kind).2.rejected_iff kind
  have hcontains : (r.resolve kind).resolver.cache.contains kind = true := by
    have hresolved := r.resolved_resolve kind
    generalize r.resolve kind = outcome at hresolved ⊢
    cases hresolved with
    | unnamed hempty =>
      subst hempty
      cases hkind
    | cached _ hcache => simp [OrderedMap.contains, hcache]
    | failed _ _ hfailed =>
      have hload : r.load kind = .ok loaded := (h.load_eq r.asked kind).trans hanswer
      cases hload.symm.trans hfailed
    | kept _ _ _ _ => simp [OrderedMap.contains]
  rw [Bool.eq_iff_iff, hafter]
  simp [hcontains, hanswer]

/-- **What a run has resolved is what the table says.** -/
theorem Steady.schemaFor_eq {final : Resolver} (h : Steady registry answers r)
    (hextends : r.Extends final) (hsettled : final.Settled kind) :
    schemaFor answers kind = .ok (final.answer kind) := by
  rcases hsettled with rfl | ⟨schema, hkept⟩
  · rfl
  · obtain ⟨loaded, hanswer, rfl⟩ : ∃ loaded, answers kind = .ok loaded ∧ loaded.schema = schema := by
      rcases hextends.loaded kind schema hkept with hold | ⟨asked, loaded, hload, hschema⟩
      · exact h.kept kind schema hold
      · exact ⟨loaded, (h.load_eq asked kind).symm.trans hload, hschema⟩
    rw [schemaFor, answer, hanswer, hkept]
    split <;> rfl

/-- So is the category that goes with it. -/
theorem Steady.categoryFor_eq {final : Resolver} (h : Steady registry answers r)
    (hextends : r.Extends final) (hsettled : final.Settled kind) :
    categoryFor registry answers kind = .ok (final.category kind) := by
  have hregistry : final.registry = registry := hextends.registry_eq.trans h.registry_eq
  rw [categoryFor, h.schemaFor_eq hextends hsettled, category, ← hregistry]
  cases final.answer kind <;> rfl

/-- What a run has resolved was answered. -/
theorem Steady.succeeds_of_settled {final : Resolver} (h : Steady registry answers r)
    (hextends : r.Extends final) (hsettled : final.Settled kind) (hkind : kind.isEmpty = false) :
    Succeeds (answers kind) := by
  have hschema := h.schemaFor_eq hextends hsettled
  simp only [schemaFor, hkind, Bool.false_eq_true, if_false] at hschema
  exact succeeds_map_iff.mp ⟨_, hschema⟩

end Resolver

namespace Run

/-! ## 2. Results that do not depend on what has been resolved -/

variable {registry : Registry} {answers : Text → Except Fault Resolver.Loaded} {α β : Type}

/-- **The computation comes to a result that does not depend on what has been resolved so far**, as
long as loading goes by a table of answers. -/
def Computes (registry : Registry) (answers : Text → Except Fault Resolver.Loaded) (m : Run α)
    (x : Except Fault α) : Prop :=
  ∀ st, Resolver.Steady registry answers st.resolver →
    ∃ st', m.execute st = (x, st') ∧ Resolver.Steady registry answers st'.resolver

theorem computes_pure (a : α) : Computes registry answers (pure a) (.ok a) :=
  fun st h => ⟨st, rfl, h⟩

theorem computes_lift (x : Except Fault α) : Computes registry answers (lift x) x := by
  intro st h
  cases x <;> exact ⟨st, rfl, h⟩

theorem computes_record (records : List LogRecord) :
    Computes registry answers (record records) (.ok ()) :=
  fun _ h => ⟨_, execute_record _ _, h⟩

theorem Computes.bind {m : Run α} {x : Except Fault α} {k : α → Run β} {y : α → Except Fault β}
    (hm : Computes registry answers m x) (hk : ∀ a, Computes registry answers (k a) (y a)) :
    Computes registry answers (m >>= k) (x >>= y) := by
  intro st h
  obtain ⟨st₁, hrun, hsteady⟩ := hm st h
  rw [execute_bind, hrun]
  cases x with
  | error f => exact ⟨st₁, rfl, hsteady⟩
  | ok a => exact hk a st₁ hsteady

/-- What comes first has a known value. -/
theorem Computes.bind_ok {m : Run α} {a : α} {k : α → Run β} {y : Except Fault β}
    (hm : Computes registry answers m (.ok a)) (hk : Computes registry answers (k a) y) :
    Computes registry answers (m >>= k) y := by
  intro st h
  obtain ⟨st₁, hrun, hsteady⟩ := hm st h
  rw [execute_bind, hrun]
  exact hk st₁ hsteady

theorem Computes.map {m : Run α} {x : Except Fault α} (f : α → β)
    (hm : Computes registry answers m x) : Computes registry answers (f <$> m) (f <$> x) := by
  rw [map_eq_pure_bind, map_eq_pure_bind]
  exact hm.bind fun a => computes_pure (f a)

theorem Computes.mapM {m : α → Run β} {y : α → Except Fault β} {xs : List α}
    (h : ∀ x ∈ xs, Computes registry answers (m x) (y x)) :
    Computes registry answers (xs.mapM m) (xs.mapM y) := by
  induction xs with
  | nil =>
    rw [List.mapM_nil, List.mapM_nil]
    exact computes_pure []
  | cons x rest ih =>
    rw [List.mapM_cons, List.mapM_cons]
    refine (h x List.mem_cons_self).bind fun b => ?_
    exact (ih fun y hy => h y (List.mem_cons_of_mem _ hy)).bind fun bs => computes_pure (b :: bs)

/-- What the members of a list come to, put together, where it is known. -/
theorem Computes.flatMapM_ok {m : α → Run (List β)} {value : α → List β} {xs : List α}
    (h : ∀ x ∈ xs, Computes registry answers (m x) (.ok (value x))) :
    Computes registry answers (List.flatten <$> xs.mapM m) (.ok (xs.flatMap value)) := by
  have hall := (Computes.mapM h).map List.flatten
  rw [mapM_eq_ok fun x _ => rfl] at hall
  rwa [List.flatMap_def]

theorem Computes.filterM {p : α → Run Bool} {q : α → Except Fault Bool} {xs : List α}
    (h : ∀ x ∈ xs, Computes registry answers (p x) (q x)) :
    Computes registry answers (xs.filterM p) (xs.filterM q) := by
  have hloop : ∀ (xs acc : List α), (∀ x ∈ xs, Computes registry answers (p x) (q x)) →
      Computes registry answers (xs.filterAuxM p acc) (xs.filterAuxM q acc) := by
    intro xs
    induction xs with
    | nil => exact fun acc _ => computes_pure acc
    | cons x rest ih =>
      intro acc h
      refine (h x List.mem_cons_self).bind fun b => ?_
      exact ih _ fun y hy => h y (List.mem_cons_of_mem _ hy)
  exact (hloop xs [] h).bind fun kept => computes_pure kept.reverse

theorem computes_resolve (kind : Text) :
    Computes registry answers (resolve kind) (Resolver.schemaFor answers kind) := by
  intro st h
  obtain ⟨hresult, hsteady⟩ := h.resolve_spec kind
  refine ⟨⟨(st.resolver.resolve kind).resolver, st.log ++ (st.resolver.resolve kind).log⟩, ?_,
    hsteady⟩
  rw [execute_resolve, hresult]

/-- Resolving a kind and asking whether its answer was rejected. -/
theorem computes_resolve_rejected {kind : Text} (hkind : kind.isEmpty = false)
    {k : Option KindSchema → OrderedMap Text Text → Run α}
    {y : Option KindSchema → Bool → Except Fault α}
    (hk : ∀ schema rejected,
      Computes registry answers (k schema rejected) (y schema (rejected.contains kind))) :
    Computes registry answers
      (do
        let schema ← resolve kind
        let rejected ← rejectedKinds
        k schema rejected)
      (answers kind >>= fun loaded => y loaded.schema loaded.rejection.isSome) := by
  intro st h
  obtain ⟨hresult, hsteady⟩ := h.resolve_spec kind
  have hschema : Resolver.schemaFor answers kind = Resolver.Loaded.schema <$> answers kind := by
    simp only [Resolver.schemaFor, hkind, Bool.false_eq_true, if_false]
  rw [hschema] at hresult
  rw [execute_bind, execute_resolve, hresult]
  cases hanswer : answers kind with
  | error f => exact ⟨_, rfl, hsteady⟩
  | ok loaded =>
    have hrest := hk loaded.schema (st.resolver.resolve kind).resolver.rejected
      ⟨(st.resolver.resolve kind).resolver, st.log ++ (st.resolver.resolve kind).log⟩ hsteady
    rw [h.rejected_resolve hkind hanswer] at hrest
    exact hrest

theorem computes_categoryOf (kind : Text) :
    Computes registry answers (categoryOf kind) (Resolver.categoryFor registry answers kind) := by
  intro st h
  obtain ⟨st', hrun, hsteady⟩ := computes_resolve kind st h
  refine ⟨st', ?_, hsteady⟩
  rw [categoryOf, execute_bind, hrun, Resolver.categoryFor]
  cases Resolver.schemaFor answers kind with
  | error f => rfl
  | ok schema => cases schema <;> simp [← hsteady.registry_eq] <;> rfl

/-! ## 3. When there is a result -/

/-- **The computation ends with a value exactly under the condition**, whatever has been resolved
before. -/
def EndsIff (registry : Registry) (answers : Text → Except Fault Resolver.Loaded) (m : Run α)
    (p : Prop) : Prop :=
  ∃ x, Computes registry answers m x ∧ (Succeeds x ↔ p)

variable {m : Run α} {k : α → Run β} {p q : Prop}

theorem Computes.endsIff {x : Except Fault α} (h : Computes registry answers m x) :
    EndsIff registry answers m (Succeeds x) := ⟨x, h, Iff.rfl⟩

theorem Computes.ends {a : α} (h : Computes registry answers m (.ok a)) :
    EndsIff registry answers m True := ⟨.ok a, h, iff_true_intro (succeeds_ok a)⟩

theorem EndsIff.congr (h : EndsIff registry answers m p) (hpq : p ↔ q) :
    EndsIff registry answers m q := by rwa [← propext hpq]

/-- What the condition says of one run. -/
theorem EndsIff.succeeds_execute (h : EndsIff registry answers m p) {st : RunState}
    (hsteady : Resolver.Steady registry answers st.resolver) :
    Succeeds (m.execute st).1 ↔ p := by
  obtain ⟨x, hx, hp⟩ := h
  obtain ⟨st', hrun, -⟩ := hx st hsteady
  rw [hrun]
  exact hp

theorem endsIff_pure (a : α) : EndsIff registry answers (pure a) True := (computes_pure a).ends

theorem endsIff_lift (x : Except Fault α) : EndsIff registry answers (lift x) (Succeeds x) :=
  (computes_lift x).endsIff

theorem endsIff_record (records : List LogRecord) :
    EndsIff registry answers (record records) True := (computes_record records).ends

/-- What comes second ends under a condition of its own, whatever comes first. -/
theorem EndsIff.bind (hm : EndsIff registry answers m p)
    (hk : ∀ a, EndsIff registry answers (k a) q) : EndsIff registry answers (m >>= k) (p ∧ q) := by
  obtain ⟨x, hx, hp⟩ := hm
  obtain ⟨y, hy⟩ := Classical.axiomOfChoice hk
  refine ⟨x >>= y, hx.bind fun a => (hy a).1, ?_⟩
  rw [succeeds_bind_iff_and fun a => (hy a).2, hp]

/-- What comes first always ends. -/
theorem EndsIff.andThen (hm : EndsIff registry answers m True)
    (hk : ∀ a, EndsIff registry answers (k a) q) : EndsIff registry answers (m >>= k) q :=
  (hm.bind hk).congr (iff_of_eq (true_and q))

/-- What comes first has a known value. -/
theorem Computes.andThen {a : α} (hm : Computes registry answers m (.ok a))
    (hk : EndsIff registry answers (k a) q) : EndsIff registry answers (m >>= k) q := by
  obtain ⟨y, hy, hq⟩ := hk
  exact ⟨y, hm.bind_ok hy, hq⟩

/-- What comes first never has a value. -/
theorem Computes.stops {f : Fault} (hm : Computes registry answers m (.error f)) :
    EndsIff registry answers (m >>= k) False := by
  refine ⟨.error f, fun st h => ?_, iff_of_false (not_succeeds_error f) id⟩
  obtain ⟨st₁, hrun, hsteady⟩ := hm st h
  exact ⟨st₁, by rw [execute_bind, hrun], hsteady⟩

theorem EndsIff.map (f : α → β) (hm : EndsIff registry answers m p) :
    EndsIff registry answers (f <$> m) p := by
  obtain ⟨x, hx, hp⟩ := hm
  exact ⟨f <$> x, hx.map f, succeeds_map_iff.trans hp⟩

/-- Going through a list ends exactly when it does at every member. -/
theorem EndsIff.mapM {m : α → Run β} {p : α → Prop}
    (h : ∀ x, EndsIff registry answers (m x) (p x)) (xs : List α) :
    EndsIff registry answers (xs.mapM m) (∀ x ∈ xs, p x) := by
  obtain ⟨y, hy⟩ := Classical.axiomOfChoice h
  refine ⟨xs.mapM y, Computes.mapM fun x _ => (hy x).1, ?_⟩
  rw [succeeds_mapM_iff]
  exact forall₂_congr fun x _ => (hy x).2

theorem EndsIff.mapM_always {m : α → Run β} (h : ∀ x, EndsIff registry answers (m x) True)
    (xs : List α) : EndsIff registry answers (xs.mapM m) True :=
  (EndsIff.mapM h xs).congr (iff_true_intro fun _ _ => trivial)

/-- Sorting out by a test that always ends. -/
theorem EndsIff.filterM {test : α → Run Bool} (h : ∀ x, EndsIff registry answers (test x) True)
    (xs : List α) : EndsIff registry answers (xs.filterM test) True := by
  obtain ⟨y, hy⟩ := Classical.axiomOfChoice h
  have hkept (x : α) : ∃ keep, y x = .ok keep := (hy x).2.mpr trivial
  obtain ⟨keep, hkeep⟩ := Classical.axiomOfChoice hkept
  refine ⟨xs.filterM y, Computes.filterM fun x _ => (hy x).1, ?_⟩
  rw [filterM_eq_ok fun x _ => hkeep x]
  exact iff_true_intro (succeeds_ok _)

/-- Where every question has an answer, resolving a kind ends. -/
theorem endsIff_resolve (hanswers : ∀ kind, Succeeds (answers kind)) (kind : Text) :
    EndsIff registry answers (resolve kind) True := by
  refine (computes_resolve kind).endsIff.congr (iff_true_intro ?_)
  unfold Resolver.schemaFor
  split
  · exact succeeds_ok none
  · exact succeeds_map_iff.mpr (hanswers kind)

/-- Where every question has an answer, every kind has a category. -/
theorem exists_computes_categoryOf (registry : Registry)
    (hanswers : ∀ kind, Succeeds (answers kind)) :
    ∃ category : Text → KindCategory,
      ∀ kind, Computes registry answers (categoryOf kind) (.ok (category kind)) := by
  have hone (kind : Text) : ∃ c, Computes registry answers (categoryOf kind) (.ok c) := by
    have hcategory : Computes registry answers (categoryOf kind) _ := computes_categoryOf kind
    obtain ⟨loaded, hloaded⟩ := hanswers kind
    rw [Resolver.categoryFor, Resolver.schemaFor, hloaded] at hcategory
    split at hcategory <;> exact ⟨_, hcategory⟩
  exact Classical.axiomOfChoice hone

end Run

end WorkflowGate
