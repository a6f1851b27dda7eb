/-
# Runs told from their end

What a run sees of a kind is settled when it first asks, and stays.  So a run that has come to an end
can be told from there: whatever it was answered on the way, the resolver that it has left keeps.  This
holds for any lookup, one that answers differently each time and one that may fail included, since only
runs that have come to an end are told of.

* `Resolver.extends_of_result`: a kind that has been resolved is kept, and nothing else changes;
* `yields_resolve`, `yields_categoryOf`: **a kind resolves to what is kept for it at the end**, and has
  the category that goes with it;
* `Yields.bind`, `Yields.mapM_forall₂`, `Yields.flatMapM`, `Yields.filterM`: what is put together is
  told by its parts.
-/
import Mathlib.Data.List.Forall2
import WorkflowGate.Proofs.Resolution
import WorkflowGate.Proofs.Result

namespace WorkflowGate

open Result

/-- **A kind that has been resolved is kept**, whatever loading others may come to. -/
theorem Resolver.extends_of_result {r : Resolver} {kind : Text} {schema : Option KindSchema}
    (h : (r.resolve kind).result = .ok schema) :
    r.Extends (r.resolve kind).resolver ∧ (r.resolve kind).resolver.Settled kind ∧
      schema = (r.resolve kind).resolver.answer kind := by
  have hresolved := r.resolved_resolve kind
  generalize r.resolve kind = outcome at h hresolved ⊢
  cases hresolved with
  | unnamed hkind =>
    subst hkind
    cases h
    exact ⟨.refl r, .inl rfl, rfl⟩
  | cached hnamed hcache =>
    cases h
    refine ⟨.refl r, .inr ⟨schema, hcache⟩, ?_⟩
    simp only [answer, hnamed, hcache, Bool.false_eq_true, if_false, Option.join_some]
  | failed _ _ _ => cases h
  | @kept loaded _ _ hnamed hcache hload _ =>
    cases h
    refine ⟨extends_of_insert rfl rfl hcache hload rfl,
      .inr ⟨loaded.schema, OrderedMap.find?_insert_self _ _ _⟩, ?_⟩
    simp only [answer, hnamed, OrderedMap.find?_insert_self, Bool.false_eq_true, if_false,
      Option.join_some]

namespace Run

variable {α β : Type} {final : Resolver}

/-! ## 1. What a computation yields -/

/-- **What a computation yields, told from a resolver at the end of the run**: it only adds to what has
been resolved, and if the end extends what it leaves, its value is as said. -/
def Yields (final : Resolver) (m : Run α) (p : α → Prop) : Prop :=
  ∀ st a st', m.execute st = (.ok a, st') →
    st.resolver.Extends st'.resolver ∧ (st'.resolver.Extends final → p a)

variable {m : Run α} {p p' : α → Prop}

theorem yields_pure {a : α} (h : p a) : Yields final (pure a) p := by
  rintro st a' st' hrun
  cases hrun
  exact ⟨.refl _, fun _ => h⟩

theorem yields_lift {x : Except Fault α} (h : ∀ a, x = .ok a → p a) : Yields final (lift x) p := by
  rintro st a st' hrun
  cases x with
  | error f => cases hrun
  | ok a =>
    cases hrun
    exact ⟨.refl _, fun _ => h a rfl⟩

theorem yields_record (records : List LogRecord) :
    Yields final (record records) fun _ => True := by
  rintro st a st' hrun
  cases hrun
  exact ⟨.refl _, fun _ => trivial⟩

theorem Yields.mono (h : Yields final m p) (hp : ∀ a, p a → p' a) : Yields final m p' :=
  fun st a st' hrun => (h st a st' hrun).imp_right fun ha hend => hp a (ha hend)

/-- What a sequence yields comes from a value that its first part yields. -/
theorem Yields.bind {q : α → β → Prop} {k : α → Run β} (hm : Yields final m p)
    (hk : ∀ a, Yields final (k a) (q a)) : Yields final (m >>= k) fun b => ∃ a, p a ∧ q a b := by
  intro st b st' hrun
  rw [execute_bind] at hrun
  rcases hfirst : m.execute st with ⟨f | a, st₁⟩
  · rw [hfirst] at hrun
    cases hrun
  · rw [hfirst] at hrun
    obtain ⟨hextends₁, ha⟩ := hm st a st₁ hfirst
    obtain ⟨hextends₂, hb⟩ := hk a st₁ b st' hrun
    exact ⟨hextends₁.trans hextends₂, fun hend => ⟨a, ha (hextends₂.trans hend), hb hend⟩⟩

/-- What a sequence yields, where nothing need be known of its first part. -/
theorem Yields.andThen {q : β → Prop} {k : α → Run β} (hm : Yields final m p)
    (hk : ∀ a, Yields final (k a) q) : Yields final (m >>= k) q :=
  (hm.bind hk).mono fun _ ⟨_, _, hb⟩ => hb

theorem Yields.map {f : α → β} (hm : Yields final m p) :
    Yields final (f <$> m) fun b => ∃ a, p a ∧ b = f a := by
  rw [map_eq_pure_bind]
  exact hm.bind fun a => yields_pure rfl

/-! ## 2. Lists -/

/-- **Going through a list yields one value for each member**, in the same order. -/
theorem Yields.mapM_forall₂ {m : α → Run β} {p : α → β → Prop} (h : ∀ x, Yields final (m x) (p x))
    (xs : List α) : Yields final (xs.mapM m) fun bs => List.Forall₂ p xs bs := by
  induction xs with
  | nil =>
    rw [List.mapM_nil]
    exact yields_pure .nil
  | cons x rest ih =>
    rw [List.mapM_cons]
    refine ((h x).bind fun b => ih.bind fun bs =>
      yields_pure (p := fun all => all = b :: bs) rfl).mono ?_
    rintro _ ⟨b, hb, bs, hbs, rfl⟩
    exact .cons hb hbs

/-- It yields a value for every member and no others. -/
theorem Yields.mapM {m : α → Run β} {p : α → β → Prop} (h : ∀ x, Yields final (m x) (p x))
    (xs : List α) : Yields final (xs.mapM m) fun bs =>
      (∀ x ∈ xs, ∃ b ∈ bs, p x b) ∧ ∀ b ∈ bs, ∃ x ∈ xs, p x b := by
  refine (Yields.mapM_forall₂ h xs).mono fun bs hbs => ⟨fun x hx => ?_, fun b hb => ?_⟩
  · obtain ⟨i, hi, rfl⟩ := List.getElem_of_mem hx
    exact ⟨_, List.getElem_mem (hbs.length_eq ▸ hi), hbs.get hi (hbs.length_eq ▸ hi)⟩
  · obtain ⟨i, hi, rfl⟩ := List.getElem_of_mem hb
    exact ⟨_, List.getElem_mem (hbs.length_eq ▸ hi), hbs.get (hbs.length_eq ▸ hi) hi⟩

/-- What the members of a list yield, put together. -/
theorem Yields.flatMapM {m : α → Run (List β)} {p : α → List β → Prop}
    (h : ∀ x, Yields final (m x) (p x)) (xs : List α) :
    Yields final (List.flatten <$> xs.mapM m) fun all =>
      (∀ x ∈ xs, ∃ part, p x part ∧ ∀ b ∈ part, b ∈ all) ∧
        ∀ b ∈ all, ∃ x ∈ xs, ∃ part, p x part ∧ b ∈ part := by
  refine (Yields.mapM h xs).map.mono ?_
  rintro _ ⟨parts, ⟨hevery, honly⟩, rfl⟩
  constructor
  · intro x hx
    obtain ⟨part, hpart, hp⟩ := hevery x hx
    exact ⟨part, hp, fun b hb => List.mem_flatten.mpr ⟨part, hpart, hb⟩⟩
  · intro b hb
    obtain ⟨part, hpart, hb⟩ := List.mem_flatten.mp hb
    obtain ⟨x, hx, hp⟩ := honly part hpart
    exact ⟨x, hx, part, hp, hb⟩

/-- Where it is said what each member yields, so is what the list does. -/
theorem Yields.mapM_eq {m : α → Run β} {value : α → β}
    (h : ∀ x, Yields final (m x) fun b => b = value x) (xs : List α) :
    Yields final (xs.mapM m) fun bs => bs = xs.map value := by
  refine (Yields.mapM_forall₂ h xs).mono fun bs hbs => ?_
  rw [← List.forall₂_eq_eq_eq, List.forall₂_map_right_iff]
  exact hbs.flip

/-- **Sorting out a list by a test leaves the members for which the end says yes.** -/
theorem Yields.filterM {test : α → Run Bool} {keep : α → Bool}
    (h : ∀ x, Yields final (test x) fun b => b = keep x) (xs : List α) :
    Yields final (xs.filterM test) fun kept => kept = xs.filter keep := by
  -- the loop collects the members in reverse order in front of those it begins with
  have hloop : ∀ xs acc : List α, Yields final (xs.filterAuxM test acc) fun kept =>
      kept = (xs.filter keep).reverse ++ acc := by
    intro xs
    induction xs with
    | nil => exact fun acc => yields_pure rfl
    | cons x rest ih =>
      intro acc
      refine ((h x).bind fun b => ih (cond b (x :: acc) acc)).mono ?_
      rintro _ ⟨_, rfl, rfl⟩
      cases hx : keep x <;> simp [hx]
  refine ((hloop xs []).bind fun kept =>
    yields_pure (p := fun all => all = kept.reverse) rfl).mono ?_
  rintro _ ⟨_, rfl, rfl⟩
  simp

/-! ## 3. Questions -/

/-- **A kind resolves to what is kept for it at the end of the run.** -/
theorem yields_resolve (kind : Text) :
    Yields final (resolve kind) fun schema => schema = final.answer kind ∧ final.Settled kind := by
  intro st schema st' hrun
  rw [execute_resolve] at hrun
  obtain ⟨hresult, rfl⟩ := Prod.mk.inj hrun
  obtain ⟨hextends, hsettled, rfl⟩ := Resolver.extends_of_result hresult
  exact ⟨hextends, fun hend => ⟨(hend.answer_eq hsettled).symm, hend.settled hsettled⟩⟩

theorem yields_rejectedKinds : Yields final rejectedKinds fun _ => True := by
  rintro st a st' hrun
  cases hrun
  exact ⟨.refl _, fun _ => trivial⟩

/-- **The category of a kind is the one that the end of the run gives it.** -/
theorem yields_categoryOf (kind : Text) :
    Yields final (categoryOf kind) fun c => c = final.category kind := by
  intro st c st' hrun
  rw [categoryOf, execute_bind, execute_resolve] at hrun
  rcases hresult : (st.resolver.resolve kind).result with f | schema
  · rw [hresult] at hrun
    cases hrun
  · rw [hresult] at hrun
    cases hrun
    obtain ⟨hextends, hsettled, rfl⟩ := Resolver.extends_of_result hresult
    exact ⟨hextends, fun hend => (hend.category_eq hsettled).symm⟩

theorem yields_isTrigger (kind : Text) :
    Yields final (isTrigger kind) fun b => b = decide (final.category kind = .trigger) :=
  ((yields_categoryOf kind).bind fun c =>
    yields_pure (p := fun b => b = decide (c = .trigger)) rfl).mono fun _ ⟨_, hc, hb⟩ => hc ▸ hb

theorem yields_isBranching (kind : Text) :
    Yields final (isBranching kind) fun b => b = decide (final.category kind = .controlFlow) :=
  ((yields_categoryOf kind).bind fun c =>
    yields_pure (p := fun b => b = decide (c = .controlFlow)) rfl).mono fun _ ⟨_, hc, hb⟩ => hc ▸ hb

end Run

end WorkflowGate
