/-
# What refinements say

What a refinement says of a node is what its check finds, or one warning that it has failed (`said`).  But
the log has to tell of a failure, and asking the refinements of a node stops at the first one that it
cannot tell of (`tell`).  Neither depends on anything that a run has done before, and nothing but the log
shows that refinements have been asked.

* `Refinement.succeeds_tell_iff`, `Refinement.tell_eq_error_iff`: which failures the log can tell of;
* `Node.execute_refinementFindings`: **to ask refinements is to tell of their failures**, and what they
  say is known beforehand;
* `Refinement.builtin_cases`: what a built-in refinement is;
* `RefinementRegistry.tells_builtin`: the log can tell of every failure of those.
-/
import WorkflowGate.Check.Fields
import WorkflowGate.Proofs.Result

namespace WorkflowGate

open Result

/-! ## 1. One refinement -/

namespace Refinement

variable {r : Refinement} {n : Node} {schema : Option KindSchema}

/-- What a refinement says of a node: its findings, or the one warning that it has failed. -/
def said (r : Refinement) (n : Node) (schema : Option KindSchema) : List Finding :=
  match r.check n schema with
  | .ok findings => findings
  | .error _ => [failureFinding n]

/-- Tells of the failure of a refinement, if it fails on the node. -/
def tell (r : Refinement) (n : Node) (schema : Option KindSchema) : Except Fault Unit :=
  (fun _ => ()) <$> r.run n schema

/-- What a refinement says of a node is what its check finds, or that it failed. -/
theorem mem_said {f : Finding} (h : f ∈ r.said n schema) :
    f = failureFinding n ∨ ∃ found, r.check n schema = .ok found ∧ f ∈ found := by
  rw [said] at h
  cases hcheck : r.check n schema with
  | error reason =>
    rw [hcheck] at h
    exact .inl (List.mem_singleton.mp h)
  | ok found =>
    rw [hcheck] at h
    exact .inr ⟨found, rfl, h⟩

theorem fst_of_run {findings : List Finding} {records : List LogRecord}
    (h : r.run n schema = .ok (findings, records)) : findings = r.said n schema := by
  rw [run] at h
  rw [said]
  cases hcheck : r.check n schema with
  | ok found =>
    rw [hcheck] at h
    cases h
    rfl
  | error reason =>
    rw [hcheck] at h
    obtain ⟨name, -, h⟩ := bind_eq_ok_iff.mp h
    obtain ⟨reason, -, h⟩ := bind_eq_ok_iff.mp h
    cases h
    rfl

theorem tell_of_ok {found : List Finding} (h : r.check n schema = .ok found) :
    r.tell n schema = .ok () := by
  rw [tell, run, h]
  rfl

/-- To tell of a failure is to put the name of the refinement in words, and then the reason. -/
theorem tell_of_error {reason : Told} (h : r.check n schema = .error reason) :
    r.tell n schema = r.name >>= fun _ => reason >>= fun _ => .ok () := by
  rw [tell, run, h]
  cases r.name with
  | error f => rfl
  | ok name => cases reason <;> rfl

/-- **The log can tell of a failure** that has a name and a reason to put in words. -/
theorem succeeds_tell_iff : Succeeds (r.tell n schema) ↔
    ∀ reason, r.check n schema = .error reason → Succeeds r.name ∧ Succeeds reason := by
  cases hcheck : r.check n schema with
  | ok found =>
    rw [tell_of_ok hcheck]
    exact iff_of_true (succeeds_ok _) nofun
  | error reason =>
    rw [tell_of_error hcheck]
    refine (succeeds_bind_iff_and fun name => succeeds_bind_iff_left fun _ => succeeds_ok _).trans ?_
    exact ⟨fun h => by rintro _ ⟨⟩; exact h, fun h => h reason rfl⟩

/-- Where it cannot, the fault is that of the name or, behind it, that of the reason. -/
theorem tell_eq_error_iff {f : Fault} : r.tell n schema = .error f ↔
    ∃ reason, r.check n schema = .error reason ∧
      (r.name = .error f ∨ Succeeds r.name ∧ reason = .error f) := by
  cases hcheck : r.check n schema with
  | ok found =>
    rw [tell_of_ok hcheck]
    exact iff_of_false nofun (by rintro ⟨_, ⟨⟩, _⟩)
  | error reason =>
    rw [tell_of_error hcheck]
    simp only [bind_eq_error_iff, reduceCtorEq, and_false, exists_false, or_false, exists_and_right,
      Except.error.injEq, exists_eq_left', Succeeds]

end Refinement

/-! ## 2. All refinements of a kind -/

namespace RefinementRegistry

variable (g : RefinementRegistry) (n : Node) (schema : Option KindSchema)

/-- What the refinements of its kind say of a node. -/
def said : List Finding := (g.forKind n.kind).flatMap fun r => r.said n schema

/-- Tells of the failures on a node, one after the other. -/
def tell : Except Fault Unit := (fun _ => ()) <$> (g.forKind n.kind).mapM fun r => r.tell n schema

/-- The log can tell of every failure of the refinements. -/
def Tells : Prop := ∀ kind, ∀ r ∈ g.forKind kind, ∀ n schema, Succeeds (r.tell n schema)

variable {g n schema}

theorem succeeds_tell_iff :
    Succeeds (g.tell n schema) ↔ ∀ r ∈ g.forKind n.kind, Succeeds (r.tell n schema) := by
  rw [tell, succeeds_map_iff, succeeds_mapM_iff]

theorem exists_of_tell_eq_error {f : Fault} (h : g.tell n schema = .error f) :
    ∃ r ∈ g.forKind n.kind, r.tell n schema = .error f := by
  rw [tell] at h
  cases hall : (g.forKind n.kind).mapM fun r => r.tell n schema with
  | ok _ =>
    rw [hall] at h
    cases h
  | error f' =>
    rw [hall] at h
    cases h
    exact exists_of_mapM_eq_error hall

theorem Tells.tell_eq (h : g.Tells) (n : Node) (schema : Option KindSchema) :
    g.tell n schema = .ok () := by
  obtain ⟨_, hunit⟩ := succeeds_tell_iff.mpr fun r hr => h n.kind r hr n schema
  exact hunit

end RefinementRegistry

namespace Node

/-- To ask refinements one after the other is to tell of their failures. -/
theorem execute_mapM_run (n : Node) (schema : Option KindSchema) (rs : List Refinement)
    (st : RunState) : ∃ records,
    (rs.mapM fun r : Refinement => do
        let (findings, records) ← Run.lift (r.run n schema)
        Run.record records
        return findings).execute st =
      ((fun _ => rs.map fun r => r.said n schema) <$> rs.mapM (fun r => r.tell n schema),
        { st with log := st.log ++ records }) := by
  induction rs generalizing st with
  | nil => exact ⟨[], by rw [List.append_nil]; rfl⟩
  | cons r rest ih =>
    rw [List.mapM_cons, List.mapM_cons, List.map_cons, Refinement.tell]
    cases hrun : r.run n schema with
    | error f => exact ⟨[], by rw [List.append_nil]; rfl⟩
    | ok said =>
      obtain ⟨findings, records⟩ := said
      obtain ⟨others, hothers⟩ := ih { st with log := st.log ++ records }
      refine ⟨records ++ others, ?_⟩
      rw [← List.append_assoc, ← Refinement.fst_of_run hrun]
      have hstep : (do
          let (findings, records) ← Run.lift (.ok (findings, records))
          Run.record records
          return findings : Run (List Finding)).execute st =
            (.ok findings, { st with log := st.log ++ records }) := rfl
      rw [Run.execute_bind, hstep]
      dsimp only
      rw [Run.execute_bind, hothers]
      cases rest.mapM (fun r => r.tell n schema) <;> rfl

/-- **To ask the refinements of a node is to tell of their failures**, and what they say is known
beforehand.  Nothing but the log shows that they have been asked. -/
theorem execute_refinementFindings (n : Node) (g : RefinementRegistry) (schema : Option KindSchema)
    (st : RunState) : ∃ records, (n.refinementFindings g schema).execute st =
      ((fun _ => g.said n schema) <$> g.tell n schema, { st with log := st.log ++ records }) := by
  obtain ⟨records, hrun⟩ := n.execute_mapM_run schema (g.forKind n.kind) st
  refine ⟨records, ?_⟩
  rw [refinementFindings, Run.execute_bind, hrun, RefinementRegistry.said, RefinementRegistry.tell,
    List.flatMap_def]
  cases (g.forKind n.kind).mapM (fun r => r.tell n schema) <;> rfl

end Node

/-! ## 3. The built-in refinements -/

namespace Refinement

/-- The kinds with built-in refinements, and the refinement of each. -/
def builtinByKind : List (Text × Refinement) :=
  Palette.llmKinds.map (·, languageModel) ++
    [(Text.ofString "http_request", httpRequest), (Text.ofString "code", code),
      (Text.ofString "schedule_trigger", schedule), (Text.ofString "subworkflow", subworkflow)]

theorem entries_builtin : RefinementRegistry.builtin.byKind.entries =
    builtinByKind.map fun e => (e.1, [e.2]) := rfl

/-- **A kind has one built-in refinement or none.** -/
theorem forKind_builtin_cases (kind : Text) :
    RefinementRegistry.builtin.forKind kind = [] ∨
      ∃ r, (kind, r) ∈ builtinByKind ∧ RefinementRegistry.builtin.forKind kind = [r] := by
  rw [RefinementRegistry.forKind]
  cases hfind : RefinementRegistry.builtin.byKind.find? kind with
  | none => exact .inl rfl
  | some rs =>
    have hentry : (kind, rs) ∈ RefinementRegistry.builtin.byKind.entries :=
      OrderedMap.mem_of_lookup hfind
    rw [entries_builtin] at hentry
    obtain ⟨⟨known, r⟩, he, heq⟩ := List.mem_map.mp hentry
    obtain ⟨rfl, rfl⟩ := Prod.mk.inj heq
    exact .inr ⟨r, he, rfl⟩

theorem mem_builtinByKind_of_mem_forKind {kind : Text} {r : Refinement}
    (h : r ∈ RefinementRegistry.builtin.forKind kind) : (kind, r) ∈ builtinByKind := by
  obtain hnone | ⟨only, honly, heq⟩ := forKind_builtin_cases kind
  · rw [hnone] at h
    cases h
  · rw [heq, List.mem_singleton] at h
    exact h ▸ honly

/-- **What a built-in refinement is**: that of language models, that of requests, or one that requires
a field. -/
theorem builtin_cases {kind : Text} {r : Refinement}
    (h : r ∈ RefinementRegistry.builtin.forKind kind) :
    (kind ∈ Palette.llmKinds ∧ r = languageModel) ∨ r = httpRequest ∨
      ∃ name code what rest field, r = requiring name code what rest field := by
  rcases List.mem_append.mp (mem_builtinByKind_of_mem_forKind h) with hllm | hother
  · obtain ⟨known, hknown, heq⟩ := List.mem_map.mp hllm
    obtain ⟨rfl, rfl⟩ := Prod.mk.inj heq
    exact .inl ⟨hknown, rfl⟩
  · simp only [List.mem_cons, Prod.mk.injEq, List.not_mem_nil, or_false] at hother
    rcases hother with ⟨-, hr⟩ | ⟨-, hr⟩ | ⟨-, hr⟩ | ⟨-, hr⟩
    · exact .inr (.inl hr)
    · exact .inr (.inr ⟨_, _, _, _, _, hr⟩)
    · exact .inr (.inr ⟨_, _, _, _, _, hr⟩)
    · exact .inr (.inr ⟨_, _, _, _, _, hr⟩)

/-- The refinement of language models is the only one of their kinds. -/
theorem forKind_llm {kind : Text} (h : kind ∈ Palette.llmKinds) :
    RefinementRegistry.builtin.forKind kind = [languageModel] := by
  revert kind
  simp only [Palette.llmKinds, List.forall_mem_cons]
  exact ⟨rfl, rfl, rfl, fun _ h => (nomatch h)⟩

end Refinement

/-- **The log can tell of every failure of a built-in refinement**: only that of language models can
fail, and it says that a number is out of range. -/
theorem RefinementRegistry.tells_builtin : RefinementRegistry.builtin.Tells := by
  intro kind r hr n schema
  refine Refinement.succeeds_tell_iff.mpr fun reason hreason => ?_
  rcases Refinement.builtin_cases hr with ⟨-, rfl⟩ | rfl | ⟨name, code, what, rest, field, rfl⟩
  · simp only [Refinement.languageModel] at hreason
    split at hreason
    · cases hreason
      exact ⟨succeeds_ok _, succeeds_ok _⟩
    · cases hreason
  · simp only [Refinement.httpRequest] at hreason
    split at hreason <;> cases hreason
  · cases hreason

end WorkflowGate
