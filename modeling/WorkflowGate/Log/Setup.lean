/-
# Setting up the log

The log has a style and a level below which nothing is written.  The style may be left to the
environment.  The network client writes its own records only when everything is written.

* `ofWord_ok_iff`: a level must go by one of the known names, in any case.
-/
import WorkflowGate.Log.Format

namespace WorkflowGate

/-- How the log is set up. -/
structure LogSetup where
  style : LogStyle
  threshold : LogLevel
deriving DecidableEq

/-- The level with the given name, in any case. -/
def LogLevel.ofWord (word : Text) : Except Fault LogLevel :=
  match ofName? word.toUpper with
  | some level => .ok level
  | none => .error (.unknownLevel word.toUpper)

/-- A word names a level exactly when its capitals are a known name. -/
theorem LogLevel.ofWord_ok_iff (word : Text) (level : LogLevel) :
    LogLevel.ofWord word = .ok level ↔ LogLevel.ofName? word.toUpper = some level := by
  unfold LogLevel.ofWord
  cases LogLevel.ofName? word.toUpper <;> simp

namespace LogSetup

/-- The style that the environment asks for. -/
def environmentStyle (logFormat environment : Option Text) : LogStyle :=
  if (logFormat.getD Text.empty).toLower = Text.ofString "json" then .structured
  else if (environment.getD "development").toLower = Text.ofString "production" then .structured
  else .human

/-- The style with the given name; `auto` leaves it to the environment, and a word that is no style
stands for the one for people. -/
def styleOf (word : Text) (logFormat environment : Option Text) : LogStyle :=
  if word = Text.ofString "auto" then environmentStyle logFormat environment
  else if word = Text.ofString "json" then .structured
  else .human

/-- Sets up the log. -/
def ofWords (level style : Text) (logFormat environment : Option Text) : Except Fault LogSetup := do
  return ⟨styleOf style logFormat environment, ← LogLevel.ofWord level⟩

/-- The level of the network client's own records. -/
def clientThreshold (s : LogSetup) : LogLevel :=
  if s.threshold.number ≤ LogLevel.debug.number then .debug else .warning

/-- Is the record written? -/
def shows (s : LogSetup) (r : LogRecord) : Bool := s.threshold.number ≤ r.level.number

end LogSetup

end WorkflowGate
