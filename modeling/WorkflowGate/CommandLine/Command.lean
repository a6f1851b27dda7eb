/-
# The command

`flowcheck validate` reads a saved workflow, holds it against the gate and prints the report, as
text or as JSON.  The exit code is 0 for a valid workflow, 1 for one with errors, and 2 when the
arguments are wrong or the file holds no workflow.

* `exit_of_conclude`: the exit code says whether the report has errors.
-/
import WorkflowGate.CommandLine.Arguments
import WorkflowGate.Gate
import WorkflowGate.Log.Setup
import WorkflowGate.Workflow

namespace WorkflowGate.CommandLine

/-! ## 1. Calls -/

/-- The level of the log. -/
def logLevelOption : OptionSpec := ⟨["--log-level"], true⟩

/-- The program: it takes a command. -/
def program : CommandSpec := ⟨"flowcheck", [logLevelOption], .rest, "command"⟩

/-- The name of the command. -/
def validateName : Text := "validate"

/-- The command: it takes a workflow. -/
def validateCommand : CommandSpec where
  program := "flowcheck validate"
  options :=
    [⟨["--json"], false⟩, ⟨["--backend"], true⟩, ⟨["--config"], true⟩,
     ⟨["--ignore-error-handles"], false⟩, ⟨["--no-credentials"], false⟩]
  positional := .single
  positionalName := "workflow"

/-- A call of the command.  The level of the log is missing where its option has no value. -/
structure Call where
  logLevel : Option Text
  workflow : Text
  asJson : Bool
  backend : Text
  config : Text
  ignoreErrorHandles : Bool
  noCredentials : Bool
deriving DecidableEq

namespace Call

/-- The call that arguments describe, an option that is not given being empty. -/
def ofTaken (outer inner : Taken) (workflow : Text) : Call where
  logLevel := (outer.use? "--log-level").getD (some "WARNING")
  workflow := workflow
  asJson := inner.has "--json"
  backend := (inner.value? "--backend").getD Text.empty
  config := (inner.value? "--config").getD Text.empty
  ignoreErrorHandles := inner.has "--ignore-error-handles"
  noCredentials := inner.has "--no-credentials"

/-- Arguments that no one takes are wrong. -/
def refuseExtras (extras : List Text) : Except UsageFault Unit :=
  if extras.isEmpty then .ok ()
  else program.wrong ("unrecognized arguments: " ++ Text.join " " extras)

/-- Reads the arguments behind the name of the command. -/
def readInner (outer : Taken) (name : Text) (args : List Text) : Except UsageFault Call := do
  if name ≠ validateName then
    program.wrong
      ("argument command: invalid choice: " ++ name.quoted ++ " (choose from " ++
        validateName.quoted ++ ")")
  else
    let (inner, values) ← validateCommand.read args
    refuseExtras (outer.extras ++ inner.extras)
    return ofTaken outer inner (values.headD Text.empty)

/-- Reads arguments. -/
def read (args : List Text) : Except UsageFault Call := do
  let (outer, values) ← program.read args
  readInner outer (values.headD Text.empty) (values.drop 1)

end Call

/-! ## 2. Surroundings -/

/-- What a call finds around it: variables, the user's settings file, what stands under a path, what
carries questions to a back end, the id of the run and the time. -/
structure Surroundings where
  environment : List (Text × Text) := []
  home : FileState := .missing
  look : Text → FileState
  transport : Transport
  runId : Text
  time : Text

namespace Surroundings

/-- The value of a variable. -/
def read? (w : Surroundings) (name : Text) : Option Text := OrderedMap.lookup name w.environment

/-- The address of the back end in the environment. -/
def backendVariable (w : Surroundings) : Option Text := w.read? "FLOWCHECK_BACKEND_URL"

end Surroundings

/-- What a call leaves: its exit code, what it prints, and the requests that it sent. -/
structure Conclusion where
  exit : Nat
  stdout : Text := Text.empty
  stderr : Text := Text.empty
  sent : List HttpRequest := []

/-- The exit code for a valid workflow. -/
def exitValid : Nat := 0

/-- The exit code for a workflow with errors. -/
def exitInvalid : Nat := 1

/-- The exit code when there is no workflow to look at. -/
def exitUnreadable : Nat := 2

/-! ## 3. The run -/

namespace Call

/-- The settings for a call. -/
def settings [Room] (c : Call) (w : Surroundings) : Except Fault Settings := do
  let s ←
    if c.config.isEmpty then Settings.ofHome w.backendVariable w.home
    else
      Settings.ofFile w.backendVariable
        (if Path.isUsable c.config then w.look (Path.normalize c.config) else .missing)
  return if c.backend.isEmpty then s else { s with backendUrl := .text c.backend }

/-- The options of the run. -/
def options (c : Call) : Options where
  checkCredentials := .bool !c.noCredentials
  withBackend := .bool !c.backend.isEmpty
  ignoreErrorHandles := .bool c.ignoreErrorHandles

/-- Lines, each with its end. -/
def lines (ts : List Text) : Text := Text.concat (ts.map fun t => t ++ "\n")

/-- The records of a run that the log shows. -/
def logText (w : Surroundings) (setup : LogSetup) (log : List LogRecord) : Except Fault Text := do
  let trace := Trace.ofRun w.runId .null
  return lines (← (log.filter setup.shows).mapM fun r => r.write setup.style w.time trace)

/-- The report as it is printed. -/
def reportText (c : Call) (r : Report) : Text :=
  if c.asJson then Json.write .report r.wire else r.render

/-- What a call with a report leaves. -/
def conclude (c : Call) (r : Report) (log : Text) (sent : List HttpRequest) : Conclusion where
  exit := if r.isValid then exitValid else exitInvalid
  stdout := lines [c.reportText r]
  stderr := log
  sent := sent

/-- Holds a workflow against the gate. -/
def validate [Room] (c : Call) (w : Surroundings) (setup : LogSetup) (workflow : Workflow) :
    Except Fault Conclusion := do
  let gate : Gate := { settings := ← c.settings w }
  let run := gate.validate c.options true (.ofValue workflow.nodes) (.ofValue workflow.edges) w.transport
  return c.conclude (← run.result) (← logText w setup run.log) run.sent

/-- What a call leaves when its workflow cannot be read. -/
def unreadable (c : Call) (f : Fault) : Conclusion where
  exit := exitUnreadable
  stderr := lines ["Error: cannot read workflow " ++ c.workflow ++ ": " ++ f.message]

/-- Carries out a call. -/
def run [Room] (c : Call) (w : Surroundings) : Except Fault Conclusion := do
  let setup ←
    match c.logLevel with
    | some level => LogSetup.ofWords level "auto" (w.read? "LOG_FORMAT") (w.read? "ENV")
    | none => throw .levelExpected
  match Workflow.load c.workflow w.look with
  | .error (.notJson .nestedTooDeep) => throw (.notJson .nestedTooDeep)
  | .error f => return c.unreadable f
  | .ok workflow => c.validate w setup workflow

/-- The exit code says whether the report has errors. -/
theorem exit_of_conclude (c : Call) (r : Report) (log : Text) (sent : List HttpRequest) :
    (c.conclude r log sent).exit = 0 ↔ r.errors = [] := by
  cases h : r.errors <;> simp [conclude, Report.isValid, h, exitValid, exitInvalid]

end Call

/-- What wrong arguments leave; asking for help is not wrong. -/
def usage : UsageFault → Conclusion
  | .help => { exit := exitValid }
  | f => { exit := exitUnreadable, stderr := Call.lines [f.message] }

/-- The command. -/
def run [Room] (args : List Text) (w : Surroundings) : Except Fault Conclusion :=
  match Call.read args with
  | .error f => .ok (usage f)
  | .ok c => c.run w

end WorkflowGate.CommandLine
