/-
# Complexity

Advice on workflows that are large, slow or expensive.  It only ever warns.

* `severity_of_adviseCount`: advice on a count is a warning.
-/
import WorkflowGate.Check.Timeouts

namespace WorkflowGate

namespace Snapshot

/-- The warning when a count exceeds a threshold. -/
def adviseCount (count : Nat) (threshold : Value) (code : Code) (message : Text) :
    Except Fault (List Finding) := do
  return Finding.onlyIf (← (Value.int count).exceeds threshold) (.warning code message)

/-- The warning on the estimated run time. -/
def adviseRuntime (s : Snapshot) (settings : Settings) : Except Fault (List Finding) := do
  let total ← s.estimateRuntime settings
  if ← (Value.float total).exceeds settings.maxTotalTimeout then
    match (total.divNat 60).round? with
    | some minutes =>
      return [.warning .longExecutionTime
        ("Estimated execution time: " ++ Text.ofInt minutes ++ Text.ofString "+ minutes")]
    | none => throw .numberTooLarge
  else return []

/-- A count within a message. -/
def counted (before : String) (count : Nat) (after : String) : Text :=
  Text.ofString before ++ Text.ofNat count ++ Text.ofString after

/-- The advice on a workflow, given the categories of its nodes. -/
def advice (s : Snapshot) (categories : List KindCategory) (settings : Settings)
    (maxNestingDepth : Value) : Except Fault (List Finding) := do
  let llms := categories.count .llm
  let subworkflows := categories.count .subworkflow
  let manyLlms ← adviseCount llms settings.maxLlmNodes .manyLlmNodes
    (counted "Workflow has " llms " LLM nodes. This may be slow and expensive.")
  let manySubworkflows ← adviseCount subworkflows maxNestingDepth .manySubworkflows
    (counted "Workflow has " subworkflows " subworkflows. Monitor nesting depth.")
  return manyLlms ++ manySubworkflows ++ (← s.adviseRuntime settings)

/-- The advice on the number of nodes. -/
def adviseSize (s : Snapshot) (settings : Settings) : Except Fault (List Finding) :=
  let size := s.nodes.size
  adviseCount size settings.maxNodes .complexWorkflow
    (counted "Workflow has " size " nodes. Consider breaking it into smaller workflows.")

/-- All advice. -/
def complexityFindings (s : Snapshot) (settings : Settings) (maxNestingDepth : Value) :
    Run (List Finding) := do
  let large ← Run.lift (s.adviseSize settings)
  let categories ← s.nodeList.mapM fun n => Run.categoryOf n.kind
  return large ++ (← Run.lift (s.advice categories settings maxNestingDepth))

/-- Advice on a count is a warning. -/
theorem severity_of_adviseCount {count : Nat} {threshold : Value} {code : Code} {message : Text}
    {findings : List Finding} (h : adviseCount count threshold code message = .ok findings) :
    ∀ f ∈ findings, f.severity = .warning := by
  unfold adviseCount at h
  cases hx : (Value.int count).exceeds threshold with
  | error e => simp [hx, bind, Except.bind] at h
  | ok b =>
    simp only [hx, bind, Except.bind, pure, Except.pure, Except.ok.injEq] at h
    subst h
    intro f hf
    rw [((Finding.mem_onlyIf _ _ _).mp hf).2]
    rfl

end Snapshot

end WorkflowGate
