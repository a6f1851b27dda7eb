/-
# Reading arguments

A command takes options, which begin with a dash, and one positional argument.  An option may take a
value: the next argument or what stands behind an equals sign.  Long options may be shortened as
long as only one fits.  Two dashes alone end the options.

A command within the command takes everything from its own name on (`Positional.rest`).

* `consumed_le`: the positional argument consumes no more than there is.
-/
import WorkflowGate.Text.Digit
import WorkflowGate.Text.Quoted

namespace WorkflowGate

/-! ## 1. What a command takes -/

/-- An option: its names, and whether it takes a value. -/
structure OptionSpec where
  names : List Text
  takesValue : Bool
deriving DecidableEq

/-- What the positional argument of a command takes. -/
inductive Positional
  /-- One argument. -/
  | single
  /-- An argument and all that follow it, options included. -/
  | rest
deriving DecidableEq

/-- A command: how it is called, what it takes, and the name of its positional argument. -/
structure CommandSpec where
  program : Text
  options : List OptionSpec
  positional : Positional
  positionalName : Text

/-- Why arguments lead to no call. -/
inductive UsageFault
  /-- Help was asked for. -/
  | help
  /-- Something is wrong with the arguments. -/
  | wrong (program reason : Text)
deriving DecidableEq

/-- The line that says what is wrong. -/
def UsageFault.message : UsageFault → Text
  | help => Text.empty
  | wrong program reason => program ++ ": error: " ++ reason

namespace OptionSpec

/-- The option that asks for help. -/
def help : OptionSpec := ⟨["-h", "--help"], false⟩

/-- All names in a message. -/
def shownNames (o : OptionSpec) : Text := Text.join "/" o.names

end OptionSpec

/-! ## 2. Kinds of arguments -/

/-- An option as it stands among the arguments: known or not, the name by which it is meant, and a
value behind an equals sign. -/
structure OptionUse where
  spec : Option OptionSpec
  name : Text
  explicit : Option Text := none

/-- What an argument is. -/
inductive Word
  | plain
  | separator
  | option (use : OptionUse)

namespace CommandSpec

variable (c : CommandSpec)

/-- The arguments are wrong. -/
def wrong {α : Type} (reason : Text) : Except UsageFault α := .error (.wrong c.program reason)

/-- Something is wrong with an option. -/
def wrongOption {α : Type} (o : OptionSpec) (reason : Text) : Except UsageFault α :=
  c.wrong ("argument " ++ o.shownNames ++ ": " ++ reason)

/-- Every name with its option, in order. -/
def namedOptions : List (Text × OptionSpec) :=
  (OptionSpec.help :: c.options).flatMap fun o => o.names.map fun name => (name, o)

/-- The option with a name. -/
def named? (name : Text) : Option OptionSpec :=
  (c.namedOptions.find? fun o => o.1 = name).map Prod.snd

/-- The uses of options that an argument with two dashes may be short for. -/
def longUses (arg : Text) : List OptionUse :=
  let (start, explicit) := arg.cutAt ('=' : Char)
  (c.namedOptions.filter fun o => o.1.startsWith start).map fun o => ⟨some o.2, o.1, explicit⟩

/-- The uses of options that an argument with one dash may be: a name of one letter with a value
right behind it, or the beginning of a longer name. -/
def shortUses (arg : Text) : List OptionUse :=
  c.namedOptions.filterMap fun o =>
    if o.1 = arg.take 2 then some ⟨some o.2, o.1, some (arg.drop 2)⟩
    else if o.1.startsWith arg then some ⟨some o.2, o.1, none⟩
    else none

/-- The uses of options that an argument may be short for. -/
def possibleUses (arg : Text) : List OptionUse :=
  if arg.startsWith "--" then c.longUses arg else c.shortUses arg

end CommandSpec

/-- Does the text spell a negative number: digits, possibly with a point before the last ones? -/
def spellsNegativeNumber (arg : Text) : Bool :=
  let isDigit (p : CodePoint) : Bool := p.digitValue?.isSome
  match arg.points with
  | dash :: body =>
    let body := if body.getLast? = some (CodePoint.ofChar '\n') then body.dropLast else body
    let (whole, behind) := body.span isDigit
    dash = ('-' : Char) &&
      (match behind with
        | [] => !whole.isEmpty
        | point :: fraction => point = ('.' : Char) && !fraction.isEmpty && fraction.all isDigit)
  | [] => false

namespace CommandSpec

variable (c : CommandSpec)

/-- The use of an option whose name stands before an equals sign. -/
def exactUse? (arg : Text) : Option OptionUse :=
  match c.named? arg with
  | some o => some ⟨some o, arg, none⟩
  | none =>
    match arg.cutAt ('=' : Char) with
    | (name, some explicit) => (c.named? name).map fun o => ⟨some o, name, some explicit⟩
    | _ => none

/-- What an argument that begins with a dash is.  One that fits no option is still an option, unless
it looks like a negative number or holds a space. -/
def classifyDashed (arg : Text) : Except UsageFault Word :=
  match c.exactUse? arg with
  | some use => .ok (.option use)
  | none =>
    match c.possibleUses arg with
    | [use] => .ok (.option use)
    | [] =>
      if spellsNegativeNumber arg || arg.contains " " then .ok .plain
      else .ok (.option ⟨none, arg, none⟩)
    | uses =>
      c.wrong
        ("ambiguous option: " ++ arg ++ " could match " ++ Text.join ", " (uses.map (·.name)))

/-- What an argument is. -/
def classify (arg : Text) : Except UsageFault Word :=
  if !arg.startsWith "-" || arg = Text.ofString "-" then .ok .plain else c.classifyDashed arg

/-- What each argument is; behind the two dashes that end the options all are plain. -/
def classifyAll : List Text → Except UsageFault (List (Text × Word))
  | [] => .ok []
  | arg :: more =>
    if arg = Text.ofString "--" then
      .ok ((arg, .separator) :: more.map fun a => (a, Word.plain))
    else do
      let word ← c.classify arg
      return (arg, word) :: (← classifyAll more)

end CommandSpec

/-! ## 3. Taking arguments -/

/-- What has been taken so far: the uses of options, each with its value if it has one, the positional
argument, and what no one takes. -/
structure Taken where
  values : List (OptionSpec × Option Text) := []
  positional : Option (List Text) := none
  extras : List Text := []

/-- Is the argument plain? -/
def Word.isPlain : Word → Bool
  | plain => true
  | _ => false

/-- Is the argument the end of the options? -/
def Word.isSeparator : Word → Bool
  | separator => true
  | _ => false

namespace Positional

/-- How many arguments the positional argument takes from the front. -/
def consumed (p : Positional) (ws : List (Text × Word)) : Nat :=
  let separators := (ws.takeWhile fun w => w.2.isSeparator).length
  match ws.drop separators with
  | [] => 0
  | w :: behind =>
    if !w.2.isPlain then 0
    else
      match p with
      | rest => ws.length
      | single => separators + 1 + (behind.takeWhile fun w => w.2.isSeparator).length

/-- It takes no more than there is. -/
theorem consumed_le (p : Positional) (ws : List (Text × Word)) : p.consumed ws ≤ ws.length := by
  unfold consumed
  simp only
  split
  · omega
  · rename_i w behind hd
    have hl : ws.length - (ws.takeWhile fun w => w.2.isSeparator).length = behind.length + 1 := by
      have := congrArg List.length hd
      simpa using this
    have ht := (List.takeWhile_prefix (p := fun w : Text × Word => w.2.isSeparator)
      (l := behind)).length_le
    split
    · omega
    · split <;> omega

/-- The values among the arguments that were taken: the end of the options is none, unless a whole
command is taken. -/
def values (p : Positional) (ws : List (Text × Word)) : List Text :=
  match p with
  | rest => ws.map Prod.fst
  | single => (ws.filter fun w => w.2.isPlain).map Prod.fst

end Positional

namespace Taken

/-- Takes the positional argument from the front, unless it has been taken before. -/
def takePositional (t : Taken) (p : Positional) (ws : List (Text × Word)) : Taken × Nat :=
  match t.positional with
  | some _ => (t, 0)
  | none =>
    match p.consumed ws with
    | 0 => (t, 0)
    | n => ({ t with positional := some (p.values (ws.take n)) }, n)

end Taken

namespace CommandSpec

variable (c : CommandSpec)

/-- The flags that letters name, one right behind the other, where `o` stands before them.  Every
letter must name one. -/
def flagsBehind (o : OptionSpec) : (letters : List CodePoint) → Except UsageFault (List OptionSpec)
  | [] => .ok [o]
  | letter :: more =>
    match c.named? ⟨[CodePoint.ofChar '-', letter]⟩ with
    | some next => (fun flags => o :: flags) <$> flagsBehind next more
    | none => c.wrongOption o ("ignored explicit argument " ++ (⟨letter :: more⟩ : Text).quoted)

/-- Takes a flag: an option without a value.  More flags of one letter may stand right behind one. -/
def takeFlag (t : Taken) (o : OptionSpec) (use : OptionUse) : Except UsageFault Taken := do
  let flags ←
    match use.explicit with
    | none => pure [o]
    | some explicit =>
      if use.name.startsWith "--" || explicit.isEmpty then
        c.wrongOption o ("ignored explicit argument " ++ explicit.quoted)
      else c.flagsBehind o explicit.points
  if flags.contains OptionSpec.help then .error .help
  else return { t with values := t.values ++ flags.map fun flag => (flag, none) }

/-- The value behind an equals sign; two dashes alone are none. -/
def explicitValue (explicit : Text) : Option Text :=
  if explicit = Text.ofString "--" then none else some explicit

/-- Takes an option, with its value from the arguments behind it if it needs one: what has been
taken, and how many of the arguments behind. -/
def takeOption (t : Taken) (arg : Text) (use : OptionUse) (behind : List (Text × Word)) :
    Except UsageFault (Taken × Nat) :=
  match use.spec with
  | none => .ok ({ t with extras := t.extras ++ [arg] }, 0)
  | some o =>
    if !o.takesValue then (·, 0) <$> c.takeFlag t o use
    else
      match use.explicit, behind with
      | some explicit, _ => .ok ({ t with values := t.values ++ [(o, explicitValue explicit)] }, 0)
      | none, (value, .plain) :: _ => .ok ({ t with values := t.values ++ [(o, some value)] }, 1)
      | none, _ => c.wrongOption o "expected one argument"

/-- Takes arguments from the front until none is left.  As long as options follow, what no one takes
is extra up to the next option. -/
def takeAll (t : Taken) (ws : List (Text × Word)) : Except UsageFault Taken :=
  match ws with
  | [] => .ok t
  | (arg, .option use) :: behind =>
    match c.takeOption t arg use behind with
    | .error f => .error f
    | .ok (t, n) => takeAll t (behind.drop n)
  | w :: behind =>
    let (t', n) := t.takePositional c.positional (w :: behind)
    match n with
    | 0 => takeAll { t with extras := t.extras ++ [w.1] } behind
    | n + 1 => takeAll t' (behind.drop n)
termination_by ws.length
decreasing_by all_goals simp only [List.length_cons, List.length_drop]; omega

/-- Reads the arguments of a command, of which the positional one must be there. -/
def read (args : List Text) : Except UsageFault (Taken × List Text) := do
  let t ← c.takeAll {} (← c.classifyAll args)
  match t.positional with
  | some values => return (t, values)
  | none => c.wrong ("the following arguments are required: " ++ c.positionalName)

end CommandSpec

namespace Taken

/-- The last use of the option with a name: the value that it has there, if any. -/
def use? (t : Taken) (name : Text) : Option (Option Text) :=
  (t.values.reverse.find? fun v => v.1.names.contains name).map Prod.snd

/-- The value in the last use of the option with a name. -/
def value? (t : Taken) (name : Text) : Option Text := (t.use? name).join

/-- Was the option with a name given? -/
def has (t : Taken) (name : Text) : Bool := (t.use? name).isSome

end Taken

end WorkflowGate
