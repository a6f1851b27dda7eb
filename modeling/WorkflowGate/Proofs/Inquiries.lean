/-
# What a resolver remembers

The lookup belongs to the caller.  It may reply to one question differently each time, and loading a kind
may fail, in the lookup or on what it replies.  Whatever is asked of a resolver, in whatever order, and
whatever fails on the way, each kind has one schema from the first load on that does not fail.

`Inquiry` is one thing that is asked of a resolver, and a history is any list of them: who has asked goes
on after a fault.  `Lookup.loads` tells from the questions that have reached the lookup what loading came
to each time, and `Lookup.remembered` picks the first load of a kind that did not fail.  What carries every
statement is that the resolver `Recalls` exactly that.

* `Resolver.Recalls.resolved`: resolving one kind keeps this up;
* `Inquiry.recalls_after`: so does every history;
* `Inquiry.keepsFirst_after`: **the first load of a kind that does not fail is the last one**, and all
  later replies come from it.
-/
import WorkflowGate.Proofs.Resolution
import WorkflowGate.Proofs.Result

namespace WorkflowGate

open Result Run

/-! ## 1. What loading came to -/

namespace Lookup

open Resolver (Loaded)

variable (ask : Lookup) (asked : List Text) (kind : Text)

/-- What loading a kind comes to where the lookup has been asked the given questions. -/
def load : Except Fault Loaded := (ask asked kind).bind (Resolver.readReply kind)

/-- Questions, each with what loading came to, where others have been asked before. -/
def loadsFrom (ask : Lookup) (before : List Text) : List Text → List (Text × Except Fault Loaded)
  | [] => []
  | kind :: rest => (kind, ask.load before kind) :: loadsFrom ask (before ++ [kind]) rest

/-- All questions put to the lookup, each with what loading came to. -/
def loads : List (Text × Except Fault Loaded) := ask.loadsFrom [] asked

/-- What loading a kind came to, each time that the lookup was asked for it. -/
def loadsOf : List (Except Fault Loaded) := ((ask.loads asked).filter (·.1 = kind)).map (·.2)

/-- **What is to be remembered of a kind**: what its first load came to that did not fail. -/
def remembered : Option Loaded := (ask.loadsOf asked kind).findSome? Except.toOption

variable {ask asked kind}

theorem loadsFrom_concat (before : List Text) (last : Text) :
    ask.loadsFrom before (asked ++ [last]) =
      ask.loadsFrom before asked ++ [(last, ask.load (before ++ asked) last)] := by
  induction asked generalizing before with
  | nil => simp [loadsFrom]
  | cons first rest ih => simp [loadsFrom, ih]

/-- One more question adds a load of its kind and none of any other. -/
theorem loadsOf_concat (last : Text) : ask.loadsOf (asked ++ [last]) kind =
    ask.loadsOf asked kind ++ if last = kind then [ask.load asked kind] else [] := by
  rw [loadsOf, loads, loadsFrom_concat, List.nil_append, List.filter_append, List.map_append]
  by_cases h : last = kind
  · subst h
    simp [loadsOf, loads]
  · simp [loadsOf, loads, h]

/-- What is remembered already stays; else the new load counts, if it is of the kind. -/
theorem remembered_concat (last : Text) : ask.remembered (asked ++ [last]) kind =
    (ask.remembered asked kind).or (if last = kind then (ask.load asked kind).toOption else none) := by
  rw [remembered, loadsOf_concat, List.findSome?_append]
  by_cases h : last = kind
  · cases ask.load asked kind <;> simp [h, remembered, Except.toOption]
  · simp [h, remembered]

theorem remembered_concat_self : ask.remembered (asked ++ [kind]) kind =
    (ask.remembered asked kind).or (ask.load asked kind).toOption := by
  rw [remembered_concat, if_pos rfl]

theorem remembered_concat_of_ne {last : Text} (h : last ≠ kind) :
    ask.remembered (asked ++ [last]) kind = ask.remembered asked kind := by
  rw [remembered_concat, if_neg h, Option.or_none]

theorem map_fst_loadsFrom (ask : Lookup) (before asked : List Text) :
    (ask.loadsFrom before asked).map Prod.fst = asked := by
  induction asked generalizing before with
  | nil => rfl
  | cons first rest ih => rw [loadsFrom, List.map_cons, ih]

/-- Of a kind that has not been asked for there is nothing to remember. -/
theorem remembered_of_not_mem (h : kind ∉ asked) : ask.remembered asked kind = none := by
  have hnone : ask.loadsOf asked kind = [] := by
    rw [loadsOf, List.map_eq_nil_iff, List.filter_eq_nil_iff]
    intro load hload
    have hmem : load.1 ∈ asked := by
      rw [← map_fst_loadsFrom ask [] asked]
      exact List.mem_map_of_mem hload
    simp only [decide_eq_true_eq]
    exact fun heq => h (heq ▸ hmem)
  rw [remembered, hnone, List.findSome?_nil]

/-- What has a rejection is no schema. -/
theorem schema_of_rejection {loaded : Loaded} (h : ask.load asked kind = .ok loaded)
    (hrejection : loaded.rejection.isSome = true) : loaded.schema = none := by
  obtain ⟨reply, -, hread⟩ := bind_eq_ok_iff.mp (h : ask asked kind >>= Resolver.readReply kind = _)
  unfold Resolver.readReply at hread
  split at hread
  · cases hread
    rfl
  · cases hread
    cases hrejection
  · cases hread
    rfl
  · split at hread
    · cases hread
      cases hrejection
    · split at hread
      · cases hread
        rfl
      · cases hread

end Lookup

/-! ## 2. One kind -/

namespace Resolver

/-- **The resolver keeps what is to be remembered**, and nothing else; until there is something to
remember of a kind, every load of it has failed, and afterwards there is none. -/
structure Recalls (registry : Registry) (ask : Lookup) (r : Resolver) : Prop where
  registry_eq : r.registry = registry
  lookup_eq : r.lookup = some ask
  nameless : Text.empty ∉ r.asked
  once : ∀ kind, ∃ faults : List Fault, ask.loadsOf r.asked kind =
    faults.map .error ++ (ask.remembered r.asked kind).toList.map .ok
  cache_eq : ∀ kind, r.cache.find? kind = (ask.remembered r.asked kind).map (·.schema)
  rejected_iff : ∀ kind, r.rejected.contains kind = true ↔
    ∃ loaded, ask.remembered r.asked kind = some loaded ∧ loaded.rejection.isSome = true
  schema_eq : ∀ kind loaded, ask.remembered r.asked kind = some loaded →
    loaded.rejection.isSome = true → loaded.schema = none

variable {registry : Registry} {ask : Lookup} {r : Resolver} {kind : Text}

/-- Nothing has been asked when a run begins. -/
theorem recalls_begin (registry : Registry) (ask : Lookup) :
    Recalls registry ask (Run.begin registry (some ask)).resolver where
  registry_eq := rfl
  lookup_eq := rfl
  nameless := List.not_mem_nil
  once _ := ⟨[], rfl⟩
  cache_eq _ := rfl
  rejected_iff kind := by simp [Run.begin, OrderedMap.contains, Lookup.remembered, Lookup.loadsOf,
    Lookup.loads, Lookup.loadsFrom]
  schema_eq _ _ h := by cases h

namespace Recalls

theorem load_eq (h : Recalls registry ask r) (kind : Text) : r.load kind = ask.load r.asked kind := by
  rw [Resolver.load, h.lookup_eq, Lookup.load]

theorem askedAfter_eq (h : Recalls registry ask r) (kind : Text) :
    r.askedAfter kind = r.asked ++ [kind] := by
  rw [askedAfter, h.lookup_eq]
  rfl

/-- A kind of which nothing is remembered has not been kept. -/
theorem remembered_eq_none (h : Recalls registry ask r) (hcache : r.cache.find? kind = none) :
    ask.remembered r.asked kind = none := by
  rw [h.cache_eq] at hcache
  exact Option.map_eq_none_iff.mp hcache

/-- The questions are one more, and nothing has been remembered of the last one before. -/
theorem once_concat (h : Recalls registry ask r) (hnew : ask.remembered r.asked kind = none)
    (other : Text) : ∃ faults : List Fault, ask.loadsOf (r.asked ++ [kind]) other =
      faults.map .error ++ (ask.remembered (r.asked ++ [kind]) other).toList.map .ok := by
  obtain ⟨faults, hfaults⟩ := h.once other
  by_cases he : kind = other
  · subst he
    rw [Lookup.loadsOf_concat, Lookup.remembered_concat_self, if_pos rfl, hfaults, hnew]
    cases ask.load r.asked kind with
    | error f => exact ⟨faults ++ [f], by simp [Except.toOption]⟩
    | ok loaded => exact ⟨faults, by simp [Except.toOption]⟩
  · rw [Lookup.loadsOf_concat, Lookup.remembered_concat_of_ne he, if_neg he, List.append_nil]
    exact ⟨faults, hfaults⟩

theorem nameless_concat (h : Recalls registry ask r) (hnamed : kind.isEmpty = false) :
    Text.empty ∉ r.asked ++ [kind] := by
  intro hmem
  rcases List.mem_append.mp hmem with hmem | hmem
  · exact h.nameless hmem
  · rw [← List.mem_singleton.mp hmem] at hnamed
    cases hnamed

/-- **A load that fails changes nothing** but that the question has been asked. -/
theorem failed (h : Recalls registry ask r) (hnamed : kind.isEmpty = false)
    (hnew : ask.remembered r.asked kind = none) {f : Fault} (hload : ask.load r.asked kind = .error f) :
    Recalls registry ask { r with asked := r.asked ++ [kind] } := by
  have hsame (other : Text) :
      ask.remembered (r.asked ++ [kind]) other = ask.remembered r.asked other := by
    by_cases he : kind = other
    · subst he
      rw [Lookup.remembered_concat_self, hload, hnew]
      rfl
    · exact Lookup.remembered_concat_of_ne he
  -- so the questions may have grown, and what is kept still fits
  refine ⟨h.registry_eq, h.lookup_eq, h.nameless_concat hnamed, h.once_concat hnew, ?_, ?_, ?_⟩
  · intro other
    rw [hsame]
    exact h.cache_eq other
  · intro other
    rw [hsame]
    exact h.rejected_iff other
  · intro other
    rw [hsame]
    exact h.schema_eq other

/-- A load that does not fail is kept. -/
theorem kept (h : Recalls registry ask r) (hnamed : kind.isEmpty = false)
    (hnew : ask.remembered r.asked kind = none) {loaded : Loaded}
    (hload : ask.load r.asked kind = .ok loaded) {rejected : OrderedMap Text Text}
    (hrejected : ∀ other, rejected.contains other = true ↔
      r.rejected.contains other = true ∨ kind = other ∧ loaded.rejection.isSome = true) :
    Recalls registry ask { r with asked := r.asked ++ [kind],
                                  cache := r.cache.insert kind loaded.schema,
                                  rejected := rejected } := by
  have hself : ask.remembered (r.asked ++ [kind]) kind = some loaded := by
    rw [Lookup.remembered_concat_self, hload, hnew]
    rfl
  refine ⟨h.registry_eq, h.lookup_eq, h.nameless_concat hnamed, h.once_concat hnew, ?_, ?_, ?_⟩
  · intro other
    by_cases he : kind = other
    · subst he
      rw [hself, OrderedMap.find?_insert_self]
      rfl
    · rw [Lookup.remembered_concat_of_ne he, OrderedMap.find?_insert_of_ne _ _ he]
      exact h.cache_eq other
  · intro other
    rw [hrejected, h.rejected_iff]
    by_cases he : kind = other
    · subst he
      rw [hself, hnew]
      simp
    · rw [Lookup.remembered_concat_of_ne he]
      simp [he]
  · intro other known hknown hrejection
    by_cases he : kind = other
    · subst he
      rw [hself] at hknown
      obtain rfl := Option.some.inj hknown
      exact Lookup.schema_of_rejection hload hrejection
    · rw [Lookup.remembered_concat_of_ne he] at hknown
      exact h.schema_eq other known hknown hrejection

/-- **Resolving a kind keeps up the memory**, and takes what it gives from there. -/
theorem resolved (h : Recalls registry ask r) (kind : Text) :
    Recalls registry ask (r.resolve kind).resolver := by
  have hresolved := r.resolved_resolve kind
  generalize r.resolve kind = outcome at hresolved ⊢
  cases hresolved with
  | unnamed => exact h
  | cached => exact h
  | failed hnamed hcache hload =>
    simp only [h.askedAfter_eq]
    exact h.failed hnamed (h.remembered_eq_none hcache) (h.load_eq kind ▸ hload)
  | kept hnamed hcache hload hrejected =>
    simp only [h.askedAfter_eq]
    exact h.kept hnamed (h.remembered_eq_none hcache) (h.load_eq kind ▸ hload) hrejected

/-- The kind without a name is never looked up, so there is nothing to remember of it. -/
theorem remembered_empty (h : Recalls registry ask r) :
    ask.remembered r.asked Text.empty = none := Lookup.remembered_of_not_mem h.nameless

/-- What is remembered of a kind is given again, and nothing is asked. -/
theorem resolve_of_remembered (h : Recalls registry ask r) {loaded : Loaded}
    (hloaded : ask.remembered r.asked kind = some loaded) :
    r.resolve kind = ⟨.ok loaded.schema, r, []⟩ := by
  have hnamed : kind.isEmpty = false := by
    refine Bool.eq_false_iff.mpr fun hempty => ?_
    rw [(Text.isEmpty_iff kind).mp hempty, h.remembered_empty] at hloaded
    cases hloaded
  refine resolve_of_cached hnamed ?_
  rw [h.cache_eq, hloaded]
  rfl

/-- **A kind of which nothing is remembered is asked for once more**, and a load that fails leaves what is
kept as it is. -/
theorem resolve_of_new (h : Recalls registry ask r) (hnamed : kind.isEmpty = false)
    (hnew : ask.remembered r.asked kind = none) :
    (r.resolve kind).result = Loaded.schema <$> ask.load r.asked kind ∧
      (r.resolve kind).resolver.asked = r.asked ++ [kind] ∧
      ∀ f, ask.load r.asked kind = .error f →
        (r.resolve kind).resolver.cache = r.cache ∧
          (r.resolve kind).resolver.rejected = r.rejected := by
  have hcache : r.cache.find? kind = none := by rw [h.cache_eq, hnew]; rfl
  have hresolved := r.resolved_resolve kind
  rw [← h.load_eq, ← h.askedAfter_eq]
  generalize r.resolve kind = outcome at hresolved ⊢
  cases hresolved with
  | unnamed hempty =>
    subst hempty
    cases hnamed
  | cached _ hkept =>
    rw [hcache] at hkept
    cases hkept
  | failed _ _ hload =>
    rw [hload]
    exact ⟨rfl, rfl, fun _ _ => ⟨rfl, rfl⟩⟩
  | kept _ _ hload _ =>
    rw [hload]
    exact ⟨rfl, rfl, fun _ hfailed => nomatch hfailed⟩

/-- What is remembered of a kind stays, whatever is resolved. -/
theorem remembered_resolve (h : Recalls registry ask r) {loaded : Loaded}
    (hloaded : ask.remembered r.asked kind = some loaded) (other : Text) :
    ask.remembered (r.resolve other).resolver.asked kind = some loaded := by
  have hresolved := r.resolved_resolve other
  generalize r.resolve other = outcome at hresolved ⊢
  have hconcat : ask.remembered (r.askedAfter other) kind = some loaded := by
    rw [h.askedAfter_eq, Lookup.remembered_concat, hloaded, Option.some_or]
  cases hresolved with
  | unnamed => exact hloaded
  | cached => exact hloaded
  | failed => exact hconcat
  | kept => exact hconcat

end Recalls

end Resolver

/-! ## 3. Histories -/

/-- What is asked of a resolver. -/
inductive Inquiry
  /-- The schema of a kind. -/
  | schema (kind : Text)
  /-- The category of a kind. -/
  | category (kind : Text)
  /-- Does a node of the kind start a run? -/
  | trigger (kind : Text)
  /-- Does a node of the kind choose where a run goes on? -/
  | branching (kind : Text)
  /-- The kinds whose schemas could not be read. -/
  | rejected

namespace Inquiry

/-- What comes back. -/
inductive Reply
  | schema (schema : Option KindSchema)
  | category (category : KindCategory)
  | truth (answer : Bool)
  | rejected (reasons : OrderedMap Text Text)

/-- The kind that is asked about, if one is. -/
def kind? : Inquiry → Option Text
  | schema kind => some kind
  | category kind => some kind
  | trigger kind => some kind
  | branching kind => some kind
  | rejected => none

/-- Asks. -/
def run : Inquiry → Run Reply
  | schema kind => .schema <$> resolve kind
  | category kind => .category <$> categoryOf kind
  | trigger kind => .truth <$> isTrigger kind
  | branching kind => .truth <$> isBranching kind
  | rejected => .rejected <$> rejectedKinds

/-- The state that inquiries leave, one after the other.  After a fault the next one is made all the
same. -/
def after (st : RunState) (history : List Inquiry) : RunState :=
  history.foldl (fun st c => (c.run.execute st).2) st

/-- The category of a kind that has a schema, or none. -/
def categoryGiven (registry : Registry) (kind : Text) (schema : Option KindSchema) : KindCategory :=
  (schema.map (·.category)).getD (registry.categoryOf kind)

/-- **The reply about a kind as a function of its schema and of the registry.** -/
def replyGiven (registry : Registry) (schema : Option KindSchema) : Inquiry → Reply
  | .schema _ => .schema schema
  | .category kind => .category (categoryGiven registry kind schema)
  | .trigger kind => .truth (categoryGiven registry kind schema = .trigger)
  | .branching kind => .truth (categoryGiven registry kind schema = .controlFlow)
  | .rejected => .rejected OrderedMap.empty

variable {registry : Registry} {ask : Lookup} {st : RunState} {c : Inquiry} {kind : Text}

/-- The category of a kind is made of what the kind resolves to. -/
theorem execute_categoryOf (h : st.resolver.Recalls registry ask) (kind : Text) :
    (categoryOf kind).execute st =
      (categoryGiven registry kind <$> (st.resolver.resolve kind).result,
        ((resolve kind).execute st).2) := by
  have hregistry := (h.resolved kind).registry_eq
  rw [categoryOf, execute_bind, execute_resolve]
  cases (st.resolver.resolve kind).result with
  | error f => rfl
  | ok schema =>
    cases schema with
    | some known => rfl
    | none =>
      rw [← hregistry]
      rfl

/-- **An inquiry about a kind resolves the kind** and makes its reply of what that gives. -/
theorem execute_run (h : st.resolver.Recalls registry ask) (hkind : c.kind? = some kind) :
    c.run.execute st =
      ((fun schema => c.replyGiven registry schema) <$> (st.resolver.resolve kind).result,
        ((resolve kind).execute st).2) := by
  have htruth (test : KindCategory → Bool) :
      (Reply.truth <$> (test <$> categoryOf kind : Run Bool)).execute st =
        ((fun schema => .truth (test (categoryGiven registry kind schema))) <$>
            (st.resolver.resolve kind).result, ((resolve kind).execute st).2) := by
    rw [execute_map, execute_map, execute_categoryOf h]
    cases (st.resolver.resolve kind).result <;> rfl
  cases c with
  | schema =>
    obtain rfl := Option.some.inj hkind
    rw [run, execute_map, execute_resolve]
    rfl
  | category =>
    obtain rfl := Option.some.inj hkind
    rw [run, execute_map, execute_categoryOf h]
    cases (st.resolver.resolve _).result <;> rfl
  | trigger =>
    obtain rfl := Option.some.inj hkind
    exact htruth fun c => decide (c = .trigger)
  | branching =>
    obtain rfl := Option.some.inj hkind
    exact htruth fun c => decide (c = .controlFlow)
  | rejected => cases hkind

/-- One inquiry keeps up the memory. -/
theorem recalls_run (h : st.resolver.Recalls registry ask) (c : Inquiry) :
    (c.run.execute st).2.resolver.Recalls registry ask := by
  cases hkind : c.kind? with
  | some kind =>
    rw [execute_run h hkind, execute_resolve]
    exact h.resolved kind
  | none =>
    cases c with
    | rejected => exact h
    | _ => cases hkind

/-- One inquiry loses nothing that is remembered. -/
theorem remembered_run (h : st.resolver.Recalls registry ask) {loaded : Resolver.Loaded}
    (hloaded : ask.remembered st.resolver.asked kind = some loaded) (c : Inquiry) :
    ask.remembered (c.run.execute st).2.resolver.asked kind = some loaded := by
  cases hkind : c.kind? with
  | some other =>
    rw [execute_run h hkind, execute_resolve]
    exact h.remembered_resolve hloaded other
  | none =>
    cases c with
    | rejected => exact hloaded
    | _ => cases hkind

/-- **Every history keeps up the memory**, and loses nothing that is remembered. -/
theorem recalls_after (h : st.resolver.Recalls registry ask) (history : List Inquiry) :
    (after st history).resolver.Recalls registry ask ∧
      ∀ kind loaded, ask.remembered st.resolver.asked kind = some loaded →
        ask.remembered (after st history).resolver.asked kind = some loaded := by
  induction history generalizing st with
  | nil => exact ⟨h, fun _ _ hloaded => hloaded⟩
  | cons c rest ih =>
    obtain ⟨hrecalls, hkept⟩ := ih (recalls_run h c)
    exact ⟨hrecalls, fun kind loaded hloaded => hkept kind loaded (remembered_run h hloaded c)⟩

/-! ## 4. The first load that does not fail -/

/-- **How a resolver deals with the kinds it is asked about**, at one moment of its history and from then
on. -/
structure KeepsFirst (registry : Registry) (ask : Lookup) (st : RunState) : Prop where
  /-- The kind without a name never reaches the lookup. -/
  nameless : Text.empty ∉ st.resolver.asked ∧ ∀ c : Inquiry, c.kind? = some Text.empty →
    c.run.execute st = (.ok (c.replyGiven registry none), st)
  /-- The lookup has been asked for a kind until loading it did not fail, and not again. -/
  once : ∀ kind, ∃ faults : List Fault, ask.loadsOf st.resolver.asked kind =
    faults.map .error ++ (ask.remembered st.resolver.asked kind).toList.map .ok
  /-- As long as every load of a kind has failed, an inquiry about it asks the lookup once more, and
  what loading comes to is its reply and is remembered. -/
  asks : ∀ (kind : Text) (c : Inquiry), kind ≠ Text.empty → c.kind? = some kind →
    ask.remembered st.resolver.asked kind = none →
      (c.run.execute st).1 =
          (fun loaded => c.replyGiven registry loaded.schema) <$> ask.load st.resolver.asked kind ∧
        (c.run.execute st).2.resolver.asked = st.resolver.asked ++ [kind] ∧
        ask.remembered (c.run.execute st).2.resolver.asked kind =
          (ask.load st.resolver.asked kind).toOption
  /-- A load that fails changes neither what is kept nor which kinds are rejected. -/
  fails : ∀ (kind : Text) (c : Inquiry) (f : Fault), kind ≠ Text.empty → c.kind? = some kind →
    ask.remembered st.resolver.asked kind = none → ask.load st.resolver.asked kind = .error f →
      (c.run.execute st).2.resolver.cache = st.resolver.cache ∧
        (c.run.execute st).2.resolver.rejected = st.resolver.rejected
  /-- Once a load has not failed, all replies about the kind are made of it, whatever else is asked for
  in between, and nothing is asked or changed. -/
  steady : ∀ kind loaded, ask.remembered st.resolver.asked kind = some loaded →
    ∀ (later : List Inquiry) (c : Inquiry), c.kind? = some kind →
      c.run.execute (after st later) = (.ok (c.replyGiven registry loaded.schema), after st later)
  /-- The rejected kinds can be asked for, which changes nothing. -/
  rejected : Inquiry.rejected.run.execute st = (.ok (.rejected st.resolver.rejected), st)
  /-- A kind is rejected exactly when what is remembered of it is a rejection. -/
  rejected_iff : ∀ kind, st.resolver.rejected.contains kind = true ↔
    ∃ loaded, ask.remembered st.resolver.asked kind = some loaded ∧ loaded.rejection.isSome = true
  /-- It has no schema then. -/
  rejected_schema : ∀ kind, st.resolver.rejected.contains kind = true →
    (Inquiry.schema kind).run.execute st = (.ok (.schema none), st)

theorem execute_of_remembered (h : st.resolver.Recalls registry ask) {loaded : Resolver.Loaded}
    (hloaded : ask.remembered st.resolver.asked kind = some loaded) (hkind : c.kind? = some kind) :
    c.run.execute st = (.ok (c.replyGiven registry loaded.schema), st) := by
  rw [execute_run h hkind, execute_resolve, h.resolve_of_remembered hloaded, List.append_nil]
  rfl

/-- **The first load of a kind that does not fail is the last one**, whatever the lookup replies and
whatever is asked of the resolver. -/
theorem keepsFirst_after (registry : Registry) (ask : Lookup) (history : List Inquiry) :
    KeepsFirst registry ask (after (Run.begin registry (some ask)) history) := by
  -- only the invariant is needed of the history
  have h := (recalls_after (Resolver.recalls_begin registry ask) history).1
  generalize after (Run.begin registry (some ask)) history = st at h ⊢
  have hnew {kind : Text} {c : Inquiry} (hnamed : kind ≠ Text.empty) (hkind : c.kind? = some kind)
      (hnone : ask.remembered st.resolver.asked kind = none) :=
    h.resolve_of_new (Bool.eq_false_iff.mpr fun he => hnamed ((Text.isEmpty_iff kind).mp he)) hnone
  constructor
  case nameless =>
    refine ⟨h.nameless, fun c hkind => ?_⟩
    rw [execute_run h hkind, execute_resolve, Resolver.resolve_empty, List.append_nil]
    rfl
  case once => exact h.once
  case asks =>
    intro kind c hnamed hkind hnone
    obtain ⟨hresult, hasked, -⟩ := hnew hnamed hkind hnone
    rw [execute_run h hkind, execute_resolve, hresult]
    refine ⟨?_, hasked, ?_⟩
    · cases ask.load st.resolver.asked kind <;> rfl
    · rw [hasked, Lookup.remembered_concat_self, hnone, Option.none_or]
  case fails =>
    intro kind c f hnamed hkind hnone hload
    rw [execute_run h hkind, execute_resolve]
    exact (hnew hnamed hkind hnone).2.2 f hload
  case steady =>
    intro kind loaded hloaded later c hkind
    obtain ⟨hlater, hkept⟩ := recalls_after h later
    exact execute_of_remembered hlater (hkept kind loaded hloaded) hkind
  case rejected => rfl
  case rejected_iff => exact h.rejected_iff
  case rejected_schema =>
    intro kind hrejected
    obtain ⟨loaded, hloaded, hrejection⟩ := (h.rejected_iff kind).mp hrejected
    rw [execute_of_remembered h hloaded rfl, h.schema_eq kind loaded hloaded hrejection]
    rfl

/-- A lookup that fails at first, then has a number for a kind, and later nothing. -/
def fickle : Lookup := fun asked _ =>
  match asked with
  | [] => .error (.missingEntry "id")
  | [_] => .ok (.value (.int 1))
  | _ => .ok .absent

/-- Two questions about a kind, the second of which is put to the lookup because the first has failed. -/
def askedTwice : RunState :=
  after (Run.begin .builtin (some fickle)) [.trigger "set", .schema "set"]

/-- The number is kept as a rejection, so no later question about the kind reaches the lookup. -/
theorem keepsFirst_after_fickle :
    askedTwice.resolver.asked = [Text.ofString "set", Text.ofString "set"] ∧
      ∃ loaded, fickle.remembered askedTwice.resolver.asked "set" = some loaded ∧
        loaded.rejection.isSome = true ∧ askedTwice.resolver.rejected.contains "set" = true ∧
        (Inquiry.category "set").run.execute (after askedTwice [.schema "code"]) =
          (.ok (.category .transform), after askedTwice [.schema "code"]) ∧
        (Inquiry.schema "set").run.execute askedTwice = (.ok (.schema none), askedTwice) := by
  have h : KeepsFirst .builtin fickle askedTwice := keepsFirst_after .builtin fickle _
  have hloaded : fickle.remembered askedTwice.resolver.asked "set" =
      some ⟨none, some ⟨(Fault.notAMapping "int").message, Text.empty⟩⟩ := by rfl
  have hrejected := (h.rejected_iff "set").mpr ⟨_, hloaded, rfl⟩
  refine ⟨by rfl, _, hloaded, rfl, hrejected, ?_, h.rejected_schema "set" hrejected⟩
  exact h.steady "set" _ hloaded [.schema "code"] (.category "set") rfl

end Inquiry

end WorkflowGate
