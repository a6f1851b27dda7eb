/-
# One run, one schema for each kind

The lookup of a caller may answer the same question differently each time.  What the analyses of one
run see is steady all the same: the first answer for a kind is kept, and nothing that a run does
later changes it.  `Extends` says how the resolver may change during a run.

* `resolved_resolve`: the four things that resolving a kind can be;
* `Extends.category_eq`: the category of a kind that has been resolved stays;
* `exists_execute_resolve`, `exists_execute_categoryOf`: where loading does not fail, resolving gives
  what is kept from then on;
* `exists_execute_filterM`: so does sorting out the members of a list whose kinds have some category.
-/
import WorkflowGate.Run

namespace WorkflowGate

namespace Resolver

/-! ## 1. What is kept -/

/-- **What resolving a kind can be**: there is nothing to resolve, an answer is kept already, loading
fails, or what was loaded is kept from then on. -/
inductive Resolved (r : Resolver) (kind : Text) : Outcome → Prop
  | unnamed : kind = Text.empty → Resolved r kind ⟨.ok none, r, []⟩
  | cached {schema : Option KindSchema} : kind.isEmpty = false →
      r.cache.find? kind = some schema → Resolved r kind ⟨.ok schema, r, []⟩
  | failed {f : Fault} : kind.isEmpty = false → r.cache.find? kind = none →
      r.load kind = .error f → Resolved r kind ⟨.error f, { r with asked := r.askedAfter kind }, []⟩
  | kept {loaded : Loaded} {rejected : OrderedMap Text Text} {log : List LogRecord} :
      kind.isEmpty = false → r.cache.find? kind = none → r.load kind = .ok loaded →
        (∀ other, rejected.contains other = true ↔
          r.rejected.contains other = true ∨ kind = other ∧ loaded.rejection.isSome = true) →
          Resolved r kind
            ⟨.ok loaded.schema,
              { r with asked := r.askedAfter kind, cache := r.cache.insert kind loaded.schema,
                       rejected := rejected }, log⟩

theorem resolved_resolve (r : Resolver) (kind : Text) : Resolved r kind (r.resolve kind) := by
  by_cases hempty : kind.isEmpty = true
  · rw [resolve, if_pos hempty]
    exact .unnamed ((Text.isEmpty_iff kind).mp hempty)
  · have hnamed : kind.isEmpty = false := Bool.eq_false_iff.mpr hempty
    rw [resolve, if_neg hempty]
    cases hcache : r.cache.find? kind with
    | some schema => exact .cached hnamed hcache
    | none =>
      cases hload : r.load kind with
      | error f => exact .failed hnamed hcache hload
      | ok loaded =>
        cases hrejection : loaded.rejection with
        | none =>
          simp only [hrejection]
          exact .kept hnamed hcache hload fun other => by simp [hrejection]
        | some reason =>
          simp only [hrejection]
          refine .kept hnamed hcache hload fun other => ?_
          rw [OrderedMap.contains_insert, hrejection, or_comm]
          simp

/-- Loading a kind gives something, whatever has been asked before. -/
def NeverFails (r : Resolver) : Prop :=
  ∀ asked kind, ∃ loaded, Resolver.load { r with asked := asked } kind = .ok loaded

/-- The kind has been resolved; the empty one needs no lookup. -/
def Settled (r : Resolver) (kind : Text) : Prop :=
  kind = Text.empty ∨ ∃ schema, r.cache.find? kind = some schema

/-- The schema that is kept for a kind. -/
def answer (r : Resolver) (kind : Text) : Option KindSchema :=
  if kind.isEmpty then none else (r.cache.find? kind).join

/-- Only a kind that has a name resolves to a schema. -/
theorem named_of_answer {r : Resolver} {kind : Text} {schema : KindSchema}
    (h : r.answer kind = some schema) : kind.isEmpty = false := by
  rw [Bool.eq_false_iff]
  intro hempty
  rw [answer, if_pos hempty] at h
  cases h

/-- The category of a kind, by the schema that is kept. -/
def category (r : Resolver) (kind : Text) : KindCategory := r.categoryWith kind (r.answer kind)

/-- **How a resolver may change during a run.**  What is kept stays, and what is kept newly has been
loaded. -/
structure Extends (r r' : Resolver) : Prop where
  registry_eq : r'.registry = r.registry
  lookup_eq : r'.lookup = r.lookup
  kept : ∀ kind schema, r.cache.find? kind = some schema → r'.cache.find? kind = some schema
  loaded : ∀ kind schema, r'.cache.find? kind = some schema →
    r.cache.find? kind = some schema ∨
      ∃ asked loaded, Resolver.load { r with asked := asked } kind = .ok loaded ∧
        loaded.schema = schema

/-- Loading goes by the registry, the lookup and what has been asked. -/
theorem load_congr {r r' : Resolver} (hregistry : r'.registry = r.registry)
    (hlookup : r'.lookup = r.lookup) (asked : List Text) (kind : Text) :
    Resolver.load { r' with asked := asked } kind = Resolver.load { r with asked := asked } kind := by
  unfold load
  simp only [hregistry, hlookup]

namespace Extends

variable {r r' r'' : Resolver} {kind : Text}

theorem refl (r : Resolver) : Extends r r :=
  ⟨rfl, rfl, fun _ _ h => h, fun _ _ h => .inl h⟩

theorem trans (h : Extends r r') (h' : Extends r' r'') : Extends r r'' where
  registry_eq := h'.registry_eq.trans h.registry_eq
  lookup_eq := h'.lookup_eq.trans h.lookup_eq
  kept kind schema hkept := h'.kept kind schema (h.kept kind schema hkept)
  loaded kind schema hkept := by
    rcases h'.loaded kind schema hkept with hold | ⟨asked, loaded, hload, hschema⟩
    · exact h.loaded kind schema hold
    · rw [load_congr h.registry_eq h.lookup_eq] at hload
      exact .inr ⟨asked, loaded, hload, hschema⟩

theorem neverFails (h : Extends r r') (hload : r.NeverFails) : r'.NeverFails := by
  intro asked kind
  rw [load_congr h.registry_eq h.lookup_eq]
  exact hload asked kind

theorem settled (h : Extends r r') (hs : r.Settled kind) : r'.Settled kind :=
  hs.imp_right fun ⟨schema, hschema⟩ => ⟨schema, h.kept kind schema hschema⟩

theorem answer_eq (h : Extends r r') (hs : r.Settled kind) : r'.answer kind = r.answer kind := by
  rcases hs with rfl | ⟨schema, hschema⟩
  · rfl
  · rw [answer, answer, h.kept kind schema hschema, hschema]

/-- **The category of a kind that has been resolved stays.** -/
theorem category_eq (h : Extends r r') (hs : r.Settled kind) :
    r'.category kind = r.category kind := by
  unfold category categoryWith
  rw [h.answer_eq hs, h.registry_eq]

end Extends

/-- Keeping a schema for a kind for which none is kept. -/
theorem extends_of_insert {r r' : Resolver} {kind : Text} {loaded : Loaded}
    (hregistry : r'.registry = r.registry) (hlookup : r'.lookup = r.lookup)
    (hnew : r.cache.find? kind = none) (hload : r.load kind = .ok loaded)
    (hcache : r'.cache = r.cache.insert kind loaded.schema) : Extends r r' := by
  refine ⟨hregistry, hlookup, ?_, ?_⟩
  · intro other schema hkept
    have hne : kind ≠ other := by
      rintro rfl
      rw [hnew] at hkept
      cases hkept
    rw [hcache, OrderedMap.find?_insert_of_ne _ _ hne]
    exact hkept
  · intro other schema hkept
    by_cases he : kind = other
    · subst he
      rw [hcache, OrderedMap.find?_insert_self] at hkept
      exact .inr ⟨r.asked, loaded, hload, Option.some.inj hkept⟩
    · rw [hcache, OrderedMap.find?_insert_of_ne _ _ he] at hkept
      exact .inl hkept

/-- **Where loading does not fail, resolving a kind gives what is kept for it from then on.** -/
theorem resolve_spec {r : Resolver} (h : r.NeverFails) (kind : Text) :
    (r.resolve kind).result = .ok ((r.resolve kind).resolver.answer kind) ∧
      Extends r (r.resolve kind).resolver ∧ (r.resolve kind).resolver.Settled kind := by
  have hresolved := r.resolved_resolve kind
  generalize r.resolve kind = outcome at hresolved ⊢
  cases hresolved with
  | unnamed hkind =>
    subst hkind
    exact ⟨rfl, .refl r, .inl rfl⟩
  | @cached schema hnamed hcache =>
    refine ⟨?_, .refl r, .inr ⟨schema, hcache⟩⟩
    simp only [answer, hnamed, hcache, Bool.false_eq_true, if_false, Option.join_some]
  | failed _ _ hload =>
    obtain ⟨loaded, hloaded⟩ := h r.asked kind
    cases hloaded.symm.trans hload
  | @kept loaded _ _ hnamed hcache hload _ =>
    refine ⟨?_, extends_of_insert rfl rfl hcache hload rfl,
      .inr ⟨loaded.schema, OrderedMap.find?_insert_self _ _ _⟩⟩
    simp only [answer, hnamed, OrderedMap.find?_insert_self, Bool.false_eq_true, if_false,
      Option.join_some]

/-- Resolving a kind again changes nothing. -/
theorem resolve_of_settled {r : Resolver} {kind : Text} (h : r.Settled kind) :
    r.resolve kind = ⟨.ok (r.answer kind), r, []⟩ := by
  rcases h with rfl | ⟨schema, hschema⟩
  · rfl
  · by_cases hempty : kind.isEmpty = true
    · simp only [resolve, answer, hempty, if_true]
    · have hnamed : kind.isEmpty = false := Bool.eq_false_iff.mpr hempty
      rw [resolve_of_cached hnamed hschema]
      simp only [answer, hnamed, hschema, Bool.false_eq_true, if_false, Option.join_some]

end Resolver

/-! ## 2. Runs -/

namespace Run

/-- What is made of a result is made of it wherever the computation begins, and nothing else happens. -/
theorem execute_map {α β : Type} (f : α → β) (m : Run α) (st : RunState) :
    (f <$> m).execute st = (f <$> (m.execute st).1, (m.execute st).2) := by
  rw [map_eq_pure_bind, execute_bind]
  rcases m.execute st with ⟨x, st'⟩
  cases x <;> rfl

theorem exists_execute_resolve {st : RunState} (h : st.resolver.NeverFails) (kind : Text) :
    ∃ st', (resolve kind).execute st = (.ok (st'.resolver.answer kind), st') ∧
      st.resolver.Extends st'.resolver ∧ st'.resolver.Settled kind := by
  obtain ⟨hresult, hextends, hsettled⟩ := Resolver.resolve_spec h kind
  refine ⟨⟨(st.resolver.resolve kind).resolver, st.log ++ (st.resolver.resolve kind).log⟩, ?_,
    hextends, hsettled⟩
  rw [execute_resolve, hresult]

theorem exists_execute_categoryOf {st : RunState} (h : st.resolver.NeverFails) (kind : Text) :
    ∃ st', (categoryOf kind).execute st = (.ok (st'.resolver.category kind), st') ∧
      st.resolver.Extends st'.resolver ∧ st'.resolver.Settled kind := by
  obtain ⟨st', hresolve, hextends, hsettled⟩ := exists_execute_resolve h kind
  refine ⟨st', ?_, hextends, hsettled⟩
  rw [categoryOf, execute_bind, hresolve]
  rfl

/-- Asking for the category of a kind that has been resolved changes nothing. -/
theorem execute_categoryOf_of_settled {st : RunState} {kind : Text}
    (h : st.resolver.Settled kind) :
    (categoryOf kind).execute st = (.ok (st.resolver.category kind), st) := by
  have hresolve : (resolve kind).execute st = (.ok (st.resolver.answer kind), st) := by
    rw [execute_resolve, Resolver.resolve_of_settled h, List.append_nil]
  rw [categoryOf, execute_bind, hresolve]
  rfl

/-- **The members of a list whose kinds have a category are those whose kinds have it from then
on.** -/
theorem exists_execute_filterM {α : Type} (kindOf : α → Text) (category : KindCategory)
    (xs : List α) {st : RunState} (h : st.resolver.NeverFails) :
    ∃ st', (xs.filterM fun x => do return (← categoryOf (kindOf x)) = category).execute st =
        (.ok (xs.filter fun x => st'.resolver.category (kindOf x) = category), st') ∧
      st.resolver.Extends st'.resolver ∧ ∀ x ∈ xs, st'.resolver.Settled (kindOf x) := by
  -- the loop collects the members in reverse order in front of those it begins with
  have hloop : ∀ (xs acc : List α) (st : RunState), st.resolver.NeverFails →
      ∃ st', (xs.filterAuxM (fun x => do return (← categoryOf (kindOf x)) = category)
            acc).execute st =
          (.ok ((xs.filter fun x => st'.resolver.category (kindOf x) = category).reverse ++ acc),
            st') ∧
        st.resolver.Extends st'.resolver ∧ ∀ x ∈ xs, st'.resolver.Settled (kindOf x) := by
    intro xs
    induction xs with
    | nil => exact fun acc st _ => ⟨st, rfl, .refl _, fun x hx => nomatch hx⟩
    | cons x rest ih =>
      intro acc st hload
      obtain ⟨st₁, hcategory, hextends₁, hsettled₁⟩ := exists_execute_categoryOf hload (kindOf x)
      let kept : List α :=
        if st₁.resolver.category (kindOf x) = category then x :: acc else acc
      obtain ⟨st₂, hrest, hextends₂, hsettled₂⟩ := ih kept st₁ (hextends₁.neverFails hload)
      have hsame := hextends₂.category_eq hsettled₁
      refine ⟨st₂, ?_, hextends₁.trans hextends₂, fun y hy => ?_⟩
      · have htest : (do return (← categoryOf (kindOf x)) = category : Run Bool).execute st =
            (.ok (decide (st₁.resolver.category (kindOf x) = category)), st₁) := by
          rw [execute_bind, hcategory]
          rfl
        rw [List.filterAuxM, execute_bind, htest]
        by_cases hc : st₁.resolver.category (kindOf x) = category
        · simp only [kept, hc, if_true] at hrest
          simp only [hc, decide_true, cond_true, hrest, List.filter_cons, hsame, if_true,
            List.reverse_cons, List.append_assoc, List.singleton_append]
        · simp only [kept, hc, if_false] at hrest
          simp only [hc, decide_false, cond_false, hrest, List.filter_cons, hsame,
            Bool.false_eq_true, if_false]
      · rcases List.mem_cons.mp hy with rfl | hy
        · exact hextends₂.settled hsettled₁
        · exact hsettled₂ y hy
  obtain ⟨st', hrun, hextends, hsettled⟩ := hloop xs [] st h
  refine ⟨st', ?_, hextends, hsettled⟩
  rw [List.filterM, execute_bind, hrun, List.append_nil]
  simp only [execute_pure, List.reverse_reverse]

end Run

end WorkflowGate
