/-
# The program

Reads what a call needs from the outside and hands it to the command: the arguments, the
environment, the settings file in the user's home, and the files that the arguments name.  There is
no network here, so every back end is out of reach.
-/
import WorkflowGate.CommandLine.Command

open WorkflowGate

namespace WorkflowGate.CommandLine

/-- The number of the operating system for a step through something that is no directory. -/
def notADirectory : UInt32 := 20

/-- The number of the operating system for a name that is too long. -/
def nameTooLong : UInt32 := 36

/-- What stands at a place.  A place that may not be opened can still be seen, unless a directory on the
way to it may not be searched. -/
def lookAt (path : String) : IO FileState := do
  try
    let bytes ← IO.FS.readBinFile path
    return .file bytes.toList
  catch
    | .noFileOrDirectory .. => return .missing
    | .inappropriateType _ number _ =>
      return if number = notADirectory then .beneathFile else .directory
    | .permissionDenied .. =>
      try
        discard (IO.FS.realPath path)
        return .forbidden
      catch _ => return .hidden
    | e@(.invalidArgument _ number _) => if number = nameTooLong then return .nameTooLong else throw e
    | e => throw e

/-- The variables that matter. -/
def readVariables : IO (List (Text × Text)) := do
  let names := ["FLOWCHECK_BACKEND_URL", "LOG_FORMAT", "ENV"]
  names.foldlM (fun known name => do
    match ← IO.getEnv name with
    | some value => return known ++ [(Text.ofString name, Text.ofString value)]
    | none => return known) []

/-- The settings file in the user's home. -/
def readHome : IO FileState := do
  match ← IO.getEnv "HOME" with
  | some home => lookAt (home ++ "/.flowcheck/configuration.json")
  | none => return .missing

/-- The places that a call names, with what stands there. -/
def readPlaces (args : List Text) : IO (List (Text × FileState)) := do
  match Call.read args with
  | .error _ => return []
  | .ok c =>
    [c.workflow, c.config].mapM fun path => do
      let path := Path.normalize path
      return (path, ← lookAt path.toDisplay)

/-- An id for a run. -/
def newRunId : IO Text := do
  return Text.hex 16 (← IO.rand 0 0x7FFFFFFFFFFFFFFF) ++ Text.hex 16 (← IO.rand 0 0x7FFFFFFFFFFFFFFF)

end WorkflowGate.CommandLine

open WorkflowGate.CommandLine in
/-- The program. -/
def main (args : List String) : IO UInt32 := do
  let args := args.map Text.ofString
  let places ← readPlaces args
  let surroundings : Surroundings :=
    { environment := ← readVariables
      home := ← readHome
      look := fun path => (OrderedMap.lookup path places).getD .missing
      transport := { deliver := fun _ => .failure .connection "no network" }
      runId := ← newRunId
      time := Text.ofString (toString (← IO.monoMsNow)) }
  match run args surroundings with
  | .ok c =>
    IO.print c.stdout.toDisplay
    IO.eprint c.stderr.toDisplay
    return c.exit.toUInt32
  | .error f =>
    IO.eprintln f.message.toDisplay
    return 1
