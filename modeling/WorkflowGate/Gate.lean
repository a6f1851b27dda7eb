/-
# The gate

A workflow passes the gate before it is saved or run.  Every check looks at the same snapshot, and
what all of them find becomes one report, in this order: input, triggers, cycles, reachability,
orphans, fields, credentials, branches, timeouts, complexity, handles, back end.

A run has two halves: `Gate.start` does everything that needs no answer, `Opened.finish` adds what a
back end says.  They follow each other in `Gate.validate`; in `Gate.validateConcurrently` the
question is under way from the start, and the run's own checks are made in a thread of their own.
Input that is no canvas at all, or a canvas without nodes, settles the report at once.

* `finish_of_settled`: a settled report asks nobody.
-/
import WorkflowGate.Backend.Authority
import WorkflowGate.Check.Branches
import WorkflowGate.Check.Complexity
import WorkflowGate.Check.Handles
import WorkflowGate.Graph.Cycle
import WorkflowGate.Graph.Reachability
import WorkflowGate.Report

namespace WorkflowGate

/-! ## 1. Options and gates -/

/-- What the caller of a run chooses.  The values are taken as they are. -/
structure Options where
  lookup : Option Lookup := none
  checkCredentials : Value := .bool true
  checkTypes : Value := .bool true
  checkSubworkflowCycles : Value := .bool true
  withBackend : Value := .bool false
  ignoreErrorHandles : Value := .bool false
  maxNestingDepth : Value := .int 5

namespace Options

/-- The names of the options. -/
def names : List String :=
  ["check_credentials", "check_type_compatibility", "check_subworkflow_cycles",
   "validate_with_backend", "ignore_error_handles", "max_nesting_depth"]

/-- The options of a caller who gives some of them. -/
def ofArguments (given : Entries) (lookup : Option Lookup) : Except Fault Options :=
  match Entries.stranger? given names with
  | some key => .error (.unknownOption key)
  | none =>
    let pick (name : String) (default : Value) : Value := (Entries.get? given name).getD default
    .ok
      { lookup := lookup
        checkCredentials := pick "check_credentials" (.bool true)
        checkTypes := pick "check_type_compatibility" (.bool true)
        checkSubworkflowCycles := pick "check_subworkflow_cycles" (.bool true)
        withBackend := pick "validate_with_backend" (.bool false)
        ignoreErrorHandles := pick "ignore_error_handles" (.bool false)
        maxNestingDepth := pick "max_nesting_depth" (.int 5) }

/-- The checks that a back end is asked to make. -/
def flags (o : Options) : CheckFlags :=
  ⟨o.checkCredentials, o.checkTypes, o.checkSubworkflowCycles⟩

end Options

/-- What a workflow is held against. -/
structure Gate where
  registry : Registry := .builtin
  settings : Settings := {}
  refinements : RefinementRegistry := .builtin
  backend : Option Authority := none

namespace Gate

/-- The schemas of the gate; a registry that holds none stands for the built-in one. -/
def schemas (g : Gate) : Registry := if g.registry.size = 0 then .builtin else g.registry

/-- The back end of the gate: the given one, else the one that the settings name. -/
def authority? (g : Gate) : Option Authority :=
  match g.backend with
  | some a => some a
  | none =>
    if g.settings.backendUrl.truthy then
      some { baseUrl := g.settings.backendUrl, timeout := g.settings.backendTimeout }
    else none

/-! ## 2. Input -/

/-- The error on input that is no canvas. -/
def inputFindings (nodes : Batch Node) (edges : Batch Edge) : List Finding :=
  let bad := (if nodes.isList then [] else [Text.ofString "nodes"]) ++
    (if edges.isList then [] else [Text.ofString "edges"])
  Finding.onlyIf (!bad.isEmpty)
    (.error .invalidGraphInput
      ("Workflow " ++ Text.join " and " bad ++ " must be a list; nothing else was validated"))

/-- The info on a canvas without nodes. -/
def emptyFinding : Finding :=
  .info .emptyWorkflow "Workflow is empty. Add some nodes to get started."

end Gate

/-- Reads a canvas; the log says what was met. -/
def Snapshot.adapt [Room] (nodes : Batch Node) (edges : Batch Edge) : Run Snapshot := do
  let nodeReadings ← Run.lift (nodes.toEntries.bind (·.mapM Entry.readNode))
  Run.record (Snapshot.rejectionRecords nodeReadings)
  let edgeReadings ← Run.lift (edges.toEntries.bind (·.mapM Entry.readEdge))
  let s := Snapshot.ofReadings nodeReadings edgeReadings
  Run.record [s.adaptedRecord]
  return s

namespace Gate

/-- What the input is: a settled report, or a canvas to look at. -/
def intake [Room] (nodes : Batch Node) (edges : Batch Edge) : Run (Report ⊕ Snapshot) := do
  let bad := inputFindings nodes edges
  if bad.isEmpty then
    let s ← Snapshot.adapt nodes edges
    if s.isEmpty then return .inl (.ofFindings (s.findings ++ [emptyFinding]))
    else return .inr s
  else
    Run.record [.of .gate .warning "Rejected malformed workflow input"]
    return .inl (.ofFindings bad)

/-! ## 3. The run's own findings -/

/-- The findings on cycles. -/
def cycleFindings (o : Options) (s : Snapshot) : Run (List Finding) := do
  let report ← Run.lift (s.detectCycle o.ignoreErrorHandles.truthy)
  Run.record (Snapshot.cycleRecords report)
  return s.cycleFindings report

/-- The findings on what a run of the workflow reaches, and on what is not connected. -/
def connectionFindings (s : Snapshot) : Run (List Finding) := do
  let reachability ← s.analyzeReachability
  let orphans ← s.findOrphans
  return s.reachabilityFindings reachability orphans ++ s.orphanFindings orphans

/-- The findings on credentials, if they are to be checked. -/
def credentialFindings (o : Options) (s : Snapshot) : Run (List Finding) :=
  if o.checkCredentials.truthy then s.credentialFindings else return []

/-- Everything that a run finds by itself, in order. -/
def localFindings [Room] (g : Gate) (o : Options) (s : Snapshot) : Run (List Finding) := do
  let triggers ← s.triggerFindings
  let cycles ← cycleFindings o s
  let connections ← connectionFindings s
  let fields ← s.fieldFindings g.refinements
  let credentials ← credentialFindings o s
  let branches ← Run.lift s.branchFindings
  let timeouts ← Run.lift (s.timeoutFindings g.settings)
  let complexity ← s.complexityFindings g.settings o.maxNestingDepth
  let handles ← s.handleFindings
  return s.findings ++ triggers ++ cycles ++ connections ++ fields ++ credentials ++ branches ++
    timeouts ++ complexity ++ handles

/-! ## 4. Questions to a back end -/

end Gate

/-- What a run asks a back end. -/
inductive Question
  /-- Nothing; the caller does not want it. -/
  | unasked
  /-- Nothing; it cannot be asked. -/
  | impossible (detail : Text) (entry : LogRecord)
  /-- A back end, with the request to it or nothing when there is no time for one. -/
  | asked (authority : Authority) (prepared : Except Fault (Option HttpRequest))

namespace Question

/-- The requests that are sent. -/
def sent : Question → List HttpRequest
  | asked _ (.ok (some r)) => [r]
  | _ => []

/-- What asking comes to, when something is to be asked. -/
def exchange [Room] (t : Transport) : Question → Option Exchange
  | unasked => none
  | impossible detail entry => some ⟨.ok (.unavailable detail), [], [entry]⟩
  | asked a prepared => some (a.exchange t prepared)

end Question

namespace Gate

/-- The record when there is no back end. -/
def noBackendRecord : LogRecord :=
  .of .gate .warning "Backend validation requested but no backend_url is configured"

/-- The record when the caller must not wait. -/
def busyRecord : LogRecord :=
  .of .gate .warning
    "validate() called from a running event loop; use validate_async() for backend validation"

/-- What the back end is asked about a snapshot.  A caller that must not wait cannot ask. -/
def question (g : Gate) (o : Options) (mayWait : Bool) (s : Snapshot) : Question :=
  if !o.withBackend.truthy then .unasked
  else if !mayWait then .impossible "event loop already running" busyRecord
  else
    match g.authority? with
    | none => .impossible "no backend configured" noBackendRecord
    | some a => .asked a (a.prepare s o.flags)

end Gate

/-! ## 5. Runs -/

/-- How far a run has come by itself. -/
inductive Stage
  /-- The report stands. -/
  | settled (report : Report)
  /-- The run's own findings stand; the back end may add to them. -/
  | pending (own : List Finding) (question : Question)

/-- A run that has done its own part. -/
structure Opened where
  stage : Except Fault Stage
  log : List LogRecord

/-- How a run ends. -/
structure RunResult where
  result : Except Fault Report
  sent : List HttpRequest := []
  log : List LogRecord := []

namespace Gate

/-- A run's own part. -/
def stage [Room] (g : Gate) (o : Options) (mayWait : Bool) (nodes : Batch Node) (edges : Batch Edge) :
    Run Stage := do
  match ← intake nodes edges with
  | .inl report => return .settled report
  | .inr s => return .pending (← g.localFindings o s) (g.question o mayWait s)

/-- Begins a run and does its own part. -/
def start [Room] (g : Gate) (o : Options) (mayWait : Bool) (nodes : Batch Node) (edges : Batch Edge) :
    Opened :=
  let (result, state) := (g.stage o mayWait nodes edges).execute (Run.begin g.schemas o.lookup)
  ⟨result, state.log⟩

end Gate

namespace RunResult

/-- The record at the end of a run. -/
def finishedRecord (r : Report) : LogRecord :=
  .of .gate .info ("Validation finished: " ++ r.summary) [("event", .text "validation_complete")]

/-- The report on findings, with its record. -/
def close (log : List LogRecord) (sent : List HttpRequest) (findings : List Finding) : RunResult :=
  let r := Report.ofFindings findings
  ⟨.ok r, sent, log ++ [finishedRecord r]⟩

/-- The report on a run's own findings and on what asking came to, if something was asked. -/
def join (log : List LogRecord) (own : List Finding) : Option Exchange → RunResult
  | none => close log [] own
  | some e =>
    match e.result with
    | .error f => ⟨.error f, e.sent, log ++ e.log⟩
    | .ok outcome => close (log ++ e.log) e.sent (own ++ outcome.findings)

/-- An outcome adds its findings to those of the run; a fault of asking ends it. -/
theorem result_join_some (log : List LogRecord) (own : List Finding) (x : Exchange) :
    (join log own (some x)).result =
      (fun outcome => .ofFindings (own ++ outcome.findings)) <$> x.result := by
  rcases x with ⟨f | outcome, sent, entries⟩ <;> rfl

end RunResult

namespace Opened

/-- The requests that wait for an answer. -/
def waiting (p : Opened) : List HttpRequest :=
  match p.stage with
  | .ok (.pending _ q) => q.sent
  | _ => []

/-- Ends a run with what the back end says. -/
def finish [Room] (p : Opened) (t : Transport) : RunResult :=
  match p.stage with
  | .error f => ⟨.error f, [], p.log⟩
  | .ok (.settled r) => ⟨.ok r, [], p.log⟩
  | .ok (.pending own q) => .join p.log own (q.exchange t)

/-- A settled report asks nobody. -/
theorem finish_of_settled [Room] {p : Opened} {r : Report} (h : p.stage = .ok (.settled r))
    (t : Transport) : (p.finish t).result = .ok r ∧ (p.finish t).sent = [] := by
  simp [finish, h]

end Opened

namespace Gate

/-- A whole run, one part after the other. -/
def validate [Room] (g : Gate) (o : Options) (mayWait : Bool) (nodes : Batch Node) (edges : Batch Edge)
    (t : Transport) : RunResult :=
  (g.start o mayWait nodes edges).finish t

/-- A whole run with its two parts at once: the question is under way while a thread looks for findings
of the run's own, and the answer is taken in behind them.  A fault of the own part ends the run whatever
the answer is, if the thread can hand it over; else there is nothing to wait for, and the run never
ends. -/
def validateConcurrently [Room] (g : Gate) (o : Options) (nodes : Batch Node) (edges : Batch Edge)
    (t : Transport) : Option RunResult :=
  let (input, s) := (intake nodes edges).execute (Run.begin g.schemas o.lookup)
  match input with
  | .error f => some ⟨.error f, [], s.log⟩
  | .ok (.inl report) => some ⟨.ok report, [], s.log⟩
  | .ok (.inr snapshot) =>
    let answer := (g.question o true snapshot).exchange t
    let (own, s) := (g.localFindings o snapshot).execute s
    match own with
    | .ok own => some (.join s.log own answer)
    | .error f =>
      if f.isHandedOver then
        some ⟨.error f, (answer.map (·.sent)).getD [], s.log ++ (answer.map (·.log)).getD []⟩
      else none

end Gate

end WorkflowGate
