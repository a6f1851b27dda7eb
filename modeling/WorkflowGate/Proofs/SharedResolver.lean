/-
# Analyses that share a resolver

All analyses of a run ask one resolver, which keeps what it has been told: a kind is looked up by the
first analysis that meets it, and its schema, or the reason why it has none, is read off by all later
ones.  Where the lookup answers a kind the same way each time, none of them notices.  Whatever has been
run before, in whatever order and however often, an analysis comes to what it would come to by itself, a
fault included.

* `Run.Determined`: a computation has one result, whatever has been resolved; what is put together of
  such computations is one again;
* `Analysis.determined_run`: every analysis is;
* `Node.filter_unreadable`: a node has the warning on its schema exactly when the answer for its kind is
  rejected;
* `Analysis.outcomes_shared`: **analyses over one resolver come to what each of them comes to over a fresh
  one**, and schemas are reported as unreadable exactly where the lookup answers with something unusable.
-/
import WorkflowGate.Proofs.Reporter

namespace WorkflowGate

open Result Run

/-! ## 1. One result -/

namespace Run

variable {registry : Registry} {answers : Text → Except Fault Resolver.Loaded} {α β : Type}

/-- **The computation has one result**, whatever has been resolved before, as long as loading goes by the
table of answers. -/
def Determined (registry : Registry) (answers : Text → Except Fault Resolver.Loaded) (m : Run α) :
    Prop :=
  ∃ x, Computes registry answers m x

theorem Computes.determined {m : Run α} {x : Except Fault α} (h : Computes registry answers m x) :
    Determined registry answers m := ⟨x, h⟩

theorem determined_pure (a : α) : Determined registry answers (pure a) :=
  (computes_pure a).determined

theorem determined_lift (x : Except Fault α) : Determined registry answers (lift x) :=
  (computes_lift x).determined

theorem Determined.bind {m : Run α} {k : α → Run β} (hm : Determined registry answers m)
    (hk : ∀ a, Determined registry answers (k a)) : Determined registry answers (m >>= k) := by
  obtain ⟨x, hx⟩ := hm
  obtain ⟨y, hy⟩ := Classical.axiomOfChoice hk
  exact ⟨x >>= y, hx.bind hy⟩

theorem Determined.map {m : Run α} (hm : Determined registry answers m) (f : α → β) :
    Determined registry answers (f <$> m) := by
  obtain ⟨x, hx⟩ := hm
  exact ⟨f <$> x, hx.map f⟩

theorem Determined.mapM {m : α → Run β} (h : ∀ a, Determined registry answers (m a)) (xs : List α) :
    Determined registry answers (xs.mapM m) := by
  obtain ⟨y, hy⟩ := Classical.axiomOfChoice h
  exact ⟨xs.mapM y, Computes.mapM fun a _ => hy a⟩

theorem Determined.filterM {test : α → Run Bool} (h : ∀ a, Determined registry answers (test a))
    (xs : List α) : Determined registry answers (xs.filterM test) := by
  obtain ⟨y, hy⟩ := Classical.axiomOfChoice h
  exact ⟨xs.filterM y, Computes.filterM fun a _ => hy a⟩

theorem determined_resolve (kind : Text) : Determined registry answers (resolve kind) :=
  (computes_resolve kind).determined

theorem determined_categoryOf (kind : Text) : Determined registry answers (categoryOf kind) :=
  (computes_categoryOf kind).determined

theorem execute_map_fst (f : α → β) (m : Run α) (st : RunState) :
    ((f <$> m).execute st).1 = f <$> (m.execute st).1 := by
  rw [execute_map]

/-- From any two states, the result is the same, and loading goes on by the table. -/
theorem Determined.execute_eq {m : Run α} (h : Determined registry answers m) {st st' : RunState}
    (hst : Resolver.Steady registry answers st.resolver)
    (hst' : Resolver.Steady registry answers st'.resolver) :
    (m.execute st).1 = (m.execute st').1 ∧
      Resolver.Steady registry answers (m.execute st).2.resolver := by
  obtain ⟨x, hx⟩ := h
  obtain ⟨st₁, hrun, hsteady⟩ := hx st hst
  obtain ⟨st₂, hrun', -⟩ := hx st' hst'
  rw [hrun, hrun']
  exact ⟨rfl, hsteady⟩

end Run

/-! ## 2. Analyses -/

/-- An analysis of a snapshot that asks a resolver. -/
inductive Analysis
  | triggers
  | reachability
  | orphans
  | fields (refinements : RefinementRegistry)
  | credentials
  | complexity (settings : Settings) (maxNestingDepth : Value)
  | handles

namespace Analysis

/-- What an analysis comes to. -/
inductive Outcome
  | findings (found : List Finding)
  | report (reachability : Reachability)
  | ids (orphans : List Text)

/-- Runs an analysis. -/
def run (s : Snapshot) : Analysis → Run Outcome
  | triggers => .findings <$> s.triggerFindings
  | reachability => .report <$> s.analyzeReachability
  | orphans => .ids <$> s.findOrphans
  | fields refinements => .findings <$> s.fieldFindings refinements
  | credentials => .findings <$> s.credentialFindings
  | complexity settings maxNestingDepth => .findings <$> s.complexityFindings settings maxNestingDepth
  | handles => .findings <$> s.handleFindings

/-- What analyses come to that are run one after the other, each where the one before has left off, even
if that one has stopped. -/
def outcomes (s : Snapshot) : RunState → List Analysis → List (Except Fault Outcome)
  | _, [] => []
  | st, a :: rest => ((a.run s).execute st).1 :: outcomes s ((a.run s).execute st).2 rest

end Analysis

variable {registry : Registry} {answers : Text → Except Fault Resolver.Loaded}

namespace Snapshot

variable (s : Snapshot)

theorem determined_nodesOf (category : KindCategory) :
    Determined registry answers
      ((·.map Node.id) <$> s.nodeList.filterM fun n => do return (← categoryOf n.kind) = category) := by
  refine (Determined.filterM (fun n => ?_) s.nodeList).map _
  exact (determined_categoryOf n.kind).bind fun c => determined_pure _

theorem determined_analyzeReachability : Determined registry answers s.analyzeReachability := by
  refine (s.determined_nodesOf .trigger).bind fun triggers => ?_
  split
  · exact determined_lift _
  · refine (s.determined_nodesOf .controlFlow).bind fun branching => ?_
    refine (determined_lift _).bind fun report => ?_
    exact (computes_record _).determined.bind fun _ => determined_pure report

theorem determined_findOrphans : Determined registry answers s.findOrphans := by
  refine (Determined.filterM (fun n => ?_) s.nodeList).map _
  split
  · exact determined_pure false
  · refine Determined.bind ?_ fun b => determined_pure _
    exact (determined_categoryOf n.kind).bind fun c => determined_pure _

theorem determined_credentialFindings : Determined registry answers s.credentialFindings := by
  refine (Determined.mapM (fun n => ?_) s.nodeList).map _
  refine (determined_resolve n.kind).bind fun schema => ?_
  cases schema with
  | some known => exact determined_pure _
  | none => exact determined_pure _

theorem determined_complexityFindings (settings : Settings) (maxNestingDepth : Value) :
    Determined registry answers (s.complexityFindings settings maxNestingDepth) := by
  refine (determined_lift _).bind fun large => Determined.bind ?_ fun categories => ?_
  · refine Determined.mapM (fun n => ?_) s.nodeList
    exact determined_categoryOf n.kind
  · exact (determined_lift _).bind fun advice => determined_pure _

theorem determined_handleFindings : Determined registry answers s.handleFindings := by
  have hend (id : Text) (handle : Option Text) (declared : KindSchema → Option (List Text))
      (code : Code) (edgeTo what : String) :
      Determined registry answers (s.endFindings id handle declared code edgeTo what) := by
    unfold endFindings
    split
    · exact (determined_resolve _).bind fun _ => determined_pure _
    · exact determined_pure []
  refine (Determined.mapM (fun e => ?_) s.edges).map _
  exact (hend _ _ _ _ _ _).bind fun _ => (hend _ _ _ _ _ _).bind fun _ => determined_pure _

end Snapshot

namespace Analysis

/-- **Every analysis has one result**, whatever has been resolved before. -/
theorem determined_run (s : Snapshot) (a : Analysis) : Determined registry answers (a.run s) := by
  cases a with
  | triggers => exact ((s.determined_nodesOf .trigger).map s.triggerAdvice).map _
  | reachability => exact s.determined_analyzeReachability.map _
  | orphans => exact s.determined_findOrphans.map _
  | fields refinements => exact (s.computes_fieldFindings refinements).determined.map _
  | credentials => exact s.determined_credentialFindings.map _
  | complexity settings maxNestingDepth =>
    exact (s.determined_complexityFindings settings maxNestingDepth).map _
  | handles => exact s.determined_handleFindings.map _

/-- **What has been run before changes nothing.** -/
theorem outcomes_eq_map (s : Snapshot) {st₀ : RunState}
    (h₀ : Resolver.Steady registry answers st₀.resolver) (as : List Analysis) {st : RunState}
    (hst : Resolver.Steady registry answers st.resolver) :
    outcomes s st as = as.map fun a => ((a.run s).execute st₀).1 := by
  induction as generalizing st with
  | nil => rfl
  | cons a rest ih =>
    obtain ⟨hresult, hsteady⟩ := (a.determined_run s).execute_eq hst h₀
    rw [outcomes, List.map_cons, hresult, ih hsteady]

end Analysis

/-! ## 3. Unreadable schemas -/

/-- The reply is a value, and none that can be read as the schema of the kind. -/
def LookupReply.isUnusable (kind : Text) : LookupReply → Bool
  | .value .null _ => false
  | .value v _ => (KindSchema.readFor kind v).toOption.isNone
  | _ => false

/-- The lookup, if there is one, replies to the kind with something unusable. -/
def isUnusableBy (lookup : Option (Text → Except Fault LookupReply)) (kind : Text) : Bool :=
  match lookup with
  | none => false
  | some ask =>
    match ask kind with
    | .ok reply => reply.isUnusable kind
    | .error _ => false

namespace Resolver

/-- An unusable reply is taken for no schema, and is remembered. -/
theorem rejected_of_readReply {kind : Text} {reply : LookupReply} {loaded : Loaded}
    (h : readReply kind reply = .ok loaded) :
    (loaded.schema.isNone && loaded.rejection.isSome) = reply.isUnusable kind := by
  unfold readReply at h
  split at h
  · cases h
    rfl
  · cases h
    rfl
  · cases h
    rfl
  next v details hnull =>
    have hunusable : (LookupReply.value v details).isUnusable kind =
        (KindSchema.readFor kind v).toOption.isNone := by
      unfold LookupReply.isUnusable
      split
      next heq =>
        cases heq
        exact absurd rfl hnull
      next heq =>
        cases heq
        rfl
      next hother => exact absurd rfl (hother v details)
    rw [hunusable]
    split at h
    next s hread =>
      cases h
      rw [hread]
      rfl
    next f hread =>
      split at h
      · cases h
        rw [hread]
        rfl
      · cases h

/-- The table has no schema for a kind, and a reason for it, exactly when the lookup replies to the kind
with something unusable. -/
theorem rejected_of_tableOf {registry : Registry}
    {lookup : Option (Text → Except Fault LookupReply)} {kind : Text} {loaded : Loaded}
    (h : tableOf registry lookup kind = .ok loaded) :
    (loaded.schema.isNone && loaded.rejection.isSome) = isUnusableBy lookup kind := by
  cases lookup with
  | none =>
    cases h
    exact Bool.and_false _
  | some ask =>
    obtain ⟨reply, hreply, h⟩ := bind_eq_ok_iff.mp (h : ask kind >>= readReply kind = _)
    simp only [isUnusableBy, hreply]
    exact rejected_of_readReply h

end Resolver

namespace Node

variable {n : Node} {schema : Option KindSchema} {rejected : Bool} {found : List Finding}

/-- **A node has the warning on its schema exactly when the answer for its kind is rejected.** -/
theorem filter_unreadable (h : n.findingsBy .builtin schema rejected = .ok found) :
    (found.filter fun f => f.code = .invalidNodeSchema) =
      Finding.onlyIf (schema.isNone && rejected) n.unreadableSchema := by
  have hnone {fs : List Finding} (hfs : ∀ f ∈ fs, f.code ≠ .invalidNodeSchema) :
      (fs.filter fun f => f.code = .invalidNodeSchema) = [] :=
    List.filter_eq_nil_iff.mpr fun f hf => by simpa using hfs f hf
  have hunreadable : ((Finding.onlyIf (schema.isNone && rejected) n.unreadableSchema).filter
      fun f => f.code = .invalidNodeSchema) =
        Finding.onlyIf (schema.isNone && rejected) n.unreadableSchema := by
    cases schema.isNone && rejected <;> rfl
  obtain ⟨general, hgeneral, rfl⟩ := exists_general_of_findingsBy h
  have hschema : ∀ f ∈ general, f.code ≠ .invalidNodeSchema := by
    intro f hf hcode
    cases schema with
    | none =>
      cases hgeneral
      cases hf
    | some known =>
      rcases mem_schemaFindings hgeneral hf with ⟨spec, hf⟩ | ⟨spec, said, hsaid, hf⟩
      · rw [((Finding.mem_onlyIf _ _ _).mp hf).2] at hcode
        cases hcode
      · have hmem := code_mem_of_mem_shapeFinding hsaid hf
        rw [hcode] at hmem
        exact absurd hmem (by decide)
  have hrefined : ∀ f ∈ RefinementRegistry.builtin.said n schema, f.code ≠ .invalidNodeSchema := by
    intro f hf hcode
    obtain ⟨r, hr, hf⟩ := List.mem_flatMap.mp hf
    have hmem := Refinement.code_mem_of_mem_said hr hf
    rw [hcode] at hmem
    exact absurd hmem (by decide)
  rw [List.filter_append, List.filter_append, hunreadable, hnone hschema, hnone hrefined,
    List.append_nil, List.append_nil]

end Node

/-- **Schemas are reported as unreadable exactly where the lookup replies with something unusable**,
whatever has been resolved before. -/
theorem Snapshot.filter_unreadable (s : Snapshot) {registry : Registry}
    {lookup : Option (Text → Except Fault LookupReply)} {st : RunState}
    (hst : Resolver.Steady registry (Resolver.tableOf registry lookup) st.resolver)
    {found : List Finding} (h : ((s.fieldFindings .builtin).execute st).1 = .ok found) :
    (found.filter fun f => f.code = .invalidNodeSchema) =
      (s.nodeList.filter fun n => !n.kind.isEmpty && isUnusableBy lookup n.kind).map
        Node.unreadableSchema := by
  obtain ⟨st', hrun, -⟩ := s.computes_fieldFindings .builtin st hst
  rw [hrun] at h
  have hnode (n : Node) (part : List Finding)
      (hpart : n.fieldFindingsBy .builtin (Resolver.tableOf registry lookup) = .ok part) :
      (part.filter fun f => f.code = .invalidNodeSchema) =
        Finding.onlyIf (!n.kind.isEmpty && isUnusableBy lookup n.kind) n.unreadableSchema := by
    unfold Node.fieldFindingsBy at hpart
    cases hkind : n.kind.isEmpty with
    | true =>
      rw [hkind] at hpart
      cases hpart
      rfl
    | false =>
      rw [hkind] at hpart
      obtain ⟨loaded, hloaded, hpart⟩ := bind_eq_ok_iff.mp hpart
      rw [Node.filter_unreadable hpart, Resolver.rejected_of_tableOf hloaded]
      rfl
  rw [filter_flatten_mapM h hnode]
  induction s.nodeList with
  | nil => rfl
  | cons n rest ih =>
    rw [List.flatMap_cons, ih, List.filter_cons]
    cases !n.kind.isEmpty && isUnusableBy lookup n.kind <;> rfl

/-! ## 4. Analyses over one resolver -/

namespace Analysis

/-- The state in which a run begins, with a lookup that replies to a kind the same way each time. -/
def beginWith (registry : Registry) (lookup : Option (Text → Except Fault LookupReply)) : RunState :=
  Run.begin registry (lookup.map .ofFunction)

/-- What stands beside an analysis is its outcome. -/
theorem eq_of_mem_zip_map {α β : Type} {f : α → β} {as : List α} {a : α} {x : β}
    (h : (a, x) ∈ as.zip (as.map f)) : x = f a := by
  induction as with
  | nil => cases h
  | cons b rest ih =>
    rw [List.map_cons, List.zip_cons_cons] at h
    rcases List.mem_cons.mp h with heq | h
    · obtain ⟨rfl, rfl⟩ := Prod.mk.inj heq
      rfl
    · exact ih h

/-- **Analyses that share a resolver come to what each of them comes to over a fresh one**, in any order
and however often they are run.  In particular, the check of fields reports exactly the nodes to whose
kinds the lookup replies with something unusable, whether or not these kinds have been resolved
before. -/
theorem outcomes_shared (s : Snapshot) (registry : Registry)
    (lookup : Option (Text → Except Fault LookupReply)) (as : List Analysis) :
    outcomes s (beginWith registry lookup) as =
        (as.map fun a => ((a.run s).execute (beginWith registry lookup)).1) ∧
      ∀ found, (fields .builtin, .ok (.findings found)) ∈
          as.zip (outcomes s (beginWith registry lookup) as) →
        (found.filter fun f => f.code = .invalidNodeSchema) =
          (s.nodeList.filter fun n => !n.kind.isEmpty && isUnusableBy lookup n.kind).map
            Node.unreadableSchema := by
  have hst := Resolver.steady_begin_tableOf registry lookup
  have hmap := outcomes_eq_map s hst as hst
  refine ⟨hmap, fun found hfound => ?_⟩
  rw [beginWith, hmap] at hfound
  have hresult := eq_of_mem_zip_map hfound
  rw [run, execute_map_fst] at hresult
  obtain ⟨found', hrun, heq⟩ := map_eq_ok_iff.mp hresult.symm
  cases heq
  exact s.filter_unreadable hst hrun

/-! ## 5. A lookup that replies with something unusable -/

/-- A lookup that has a number for every kind. -/
def numericLookup (_ : Text) : Except Fault LookupReply := .ok (.value (.int 1))

/-- A node and a trigger that is read before it. -/
def twoNodes : Snapshot :=
  Snapshot.ofReadings
    [.node ⟨"T", "manual_trigger", [], none, none⟩, .node ⟨"A", "set", [], none, none⟩] []

/-- Both are reported, also when their kinds have been resolved before. -/
theorem outcomes_shared_numeric :
    ∃ found, outcomes twoNodes (beginWith .builtin (some numericLookup))
          [.triggers, .fields .builtin, .fields .builtin] =
        [.ok (.findings []), .ok (.findings found), .ok (.findings found)] ∧
      (found.filter fun f => f.code = .invalidNodeSchema) =
        twoNodes.nodeList.map Node.unreadableSchema := by
  obtain ⟨hmap, hreported⟩ := outcomes_shared twoNodes .builtin (some numericLookup)
    [.triggers, .fields .builtin, .fields .builtin]
  have htriggers : ((run twoNodes .triggers).execute
      (beginWith .builtin (some numericLookup))).1 = .ok (.findings []) := by rfl
  obtain ⟨found, hfields⟩ : ∃ found, ((run twoNodes (.fields .builtin)).execute
      (beginWith .builtin (some numericLookup))).1 = .ok (.findings found) := ⟨_, by rfl⟩
  rw [List.map_cons, List.map_cons, List.map_singleton, htriggers, hfields] at hmap
  refine ⟨found, hmap, ?_⟩
  rw [hreported found (by rw [hmap]; simp)]
  rfl

end Analysis

end WorkflowGate
