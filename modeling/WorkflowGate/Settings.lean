/-
# Settings

The thresholds that a run goes by.  They come from a settings file, as it stands in the user's home
or at a given place; what the file does not say has a default.  The values are taken as they are: a
threshold of the wrong kind is noticed only when something is compared with it.

A file that is not there, that is a directory or that holds no JSON mapping says nothing.  One that
is not UTF-8 is a fault, and so is an integer in it that is too long, or a name that is too long for
any file.

* `backendUrl_of_environment`: the environment wins over the file.
-/
import WorkflowGate.Files
import WorkflowGate.Room

namespace WorkflowGate

namespace FileState

/-- The settings that a place holds. -/
def settings (limit : Nat) : FileState → Except Fault Entries
  | missing => .ok []
  | beneathFile => .ok []
  | directory => .ok []
  | forbidden => .ok []
  | nameTooLong => .error (refusal 36 "File name too long" Text.empty)
  | hidden => .error (refusal 13 "Permission denied" Text.empty)
  | file bytes =>
    match readJson limit bytes with
    | .ok v => .ok ((v.entries?).getD [])
    | .error (.notJson (.malformed _ _)) => .ok []
    | .error f => .error f

/-- The settings on validation. -/
def validationSection (limit : Nat) (f : FileState) : Except Fault Entries :=
  (fun es => ((Entries.get es "validation").entries?).getD []) <$> f.settings limit

end FileState

/-- The thresholds of a run. -/
structure Settings where
  maxNodes : Value := .int 50
  maxLlmNodes : Value := .int 10
  defaultNodeTimeout : Value := .int 60
  maxTotalTimeout : Value := .int 600
  maxNodeTimeout : Value := .int 300
  backendUrl : Value := .null
  backendTimeout : Value := .float (.ofRatio false 10 1)

namespace Settings

/-- The names of the settings, in order. -/
def names : List String :=
  ["max_nodes", "max_llm_nodes", "default_node_timeout", "max_total_timeout", "max_node_timeout",
   "backend_url", "backend_timeout"]

/-- Every setting under its name. -/
def toValue (s : Settings) : Value :=
  Value.ofFields
    [("max_nodes", s.maxNodes), ("max_llm_nodes", s.maxLlmNodes),
     ("default_node_timeout", s.defaultNodeTimeout), ("max_total_timeout", s.maxTotalTimeout),
     ("max_node_timeout", s.maxNodeTimeout), ("backend_url", s.backendUrl),
     ("backend_timeout", s.backendTimeout)]

/-- The address of the back end: from the environment if it names one, else from a section. -/
def backendUrlOf (environment : Option Text) (section? : Except Fault Entries) :
    Except Fault Value :=
  match environment with
  | some url => if url.isEmpty then (Entries.get · "backend_url") <$> section? else .ok (.text url)
  | none => (Entries.get · "backend_url") <$> section?

/-- The environment wins over the file, whatever that holds. -/
theorem backendUrl_of_environment {url : Text} (h : url.isEmpty = false)
    (section? : Except Fault Entries) :
    backendUrlOf (some url) section? = .ok (.text url) := by
  simp [backendUrlOf, h]

/-- One setting: what the caller gives, else what the section says, else the default. -/
def choose (given : Entries) (section? : Except Fault Entries) (name : String) (default : Value) :
    Except Fault Value :=
  match Entries.get? given name with
  | some v => .ok v
  | none => (fun es => (Entries.get? es name).getD default) <$> section?

/-- The settings of a caller who gives some of them; the others come from the environment and the
user's own file, which is not looked at when nothing is missing. -/
def ofGiven [Room] (given : Entries) (environment : Option Text) (home : FileState) :
    Except Fault Settings := do
  let base : Settings := {}
  let pick := choose given (home.validationSection Room.home)
  let maxNodes ← pick "max_nodes" base.maxNodes
  let maxLlmNodes ← pick "max_llm_nodes" base.maxLlmNodes
  let defaultNodeTimeout ← pick "default_node_timeout" base.defaultNodeTimeout
  let maxTotalTimeout ← pick "max_total_timeout" base.maxTotalTimeout
  let maxNodeTimeout ← pick "max_node_timeout" base.maxNodeTimeout
  let backendUrl ←
    match Entries.get? given "backend_url" with
    | some v => pure v
    | none => backendUrlOf environment (home.validationSection Room.home)
  let backendTimeout ← pick "backend_timeout" base.backendTimeout
  return ⟨maxNodes, maxLlmNodes, defaultNodeTimeout, maxTotalTimeout, maxNodeTimeout, backendUrl,
    backendTimeout⟩

/-- The user's own settings. -/
def ofHome [Room] (environment : Option Text) (home : FileState) : Except Fault Settings :=
  ofGiven [] environment home

/-- The settings of a file at a given place; the user's own file is not looked at. -/
def ofFile [Room] (environment : Option Text) (f : FileState) : Except Fault Settings := do
  let section? ← f.validationSection Room.file
  let base : Settings := {}
  let pick (name : String) (default : Value) : Value := (Entries.get? section? name).getD default
  let backendUrl ← backendUrlOf environment (.ok section?)
  return ⟨pick "max_nodes" base.maxNodes, pick "max_llm_nodes" base.maxLlmNodes,
    pick "default_node_timeout" base.defaultNodeTimeout,
    pick "max_total_timeout" base.maxTotalTimeout, pick "max_node_timeout" base.maxNodeTimeout,
    backendUrl, pick "backend_timeout" base.backendTimeout⟩

/-- The settings of a caller who may only give settings that exist. -/
def ofArguments [Room] (given : Entries) (environment : Option Text) (home : FileState) :
    Except Fault Settings :=
  match Entries.stranger? given names with
  | some key => .error (.unknownOption key)
  | none => ofGiven given environment home

end Settings

end WorkflowGate
