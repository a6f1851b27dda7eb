/-
# Reading values of a known shape

A reader turns a dynamic value into a domain value, or says everything that is wrong with it: a list
of problems, each with the path to the offending part, in the order of the fields.  Readers are put
together with `<*>`, which reads both sides and keeps the problems of both.

* `Shaped.seq_problems`: nothing that is wrong on either side is lost;
* `Shaped.all_eq_good_iff`: a list reads well exactly when each member does;
* `readText_eq_ok_iff`: only text reads as text;
* `readTextMapping_eq_good_iff`: only a mapping whose keys are texts reads as one.
-/
import WorkflowGate.Value

namespace WorkflowGate

/-! ## 1. Problems -/

/-- One step on the way to a part of a value. -/
inductive PathStep
  | name (t : Text)
  | index (i : Int)
deriving DecidableEq

/-- What is wrong with a part. -/
inductive Problem
  | missing
  | textExpected
  | truthExpected
  | truthUnreadable
  | numberExpected
  | numberUnreadable
  | notAChoice
  | listExpected
  | mappingExpected
  | modelExpected
  | badKey
deriving DecidableEq

/-- The published code of a problem. -/
def Problem.code : Problem → String
  | missing => "missing"
  | textExpected => "string_type"
  | truthExpected => "bool_type"
  | truthUnreadable => "bool_parsing"
  | numberExpected => "float_type"
  | numberUnreadable => "float_parsing"
  | notAChoice => "enum"
  | listExpected => "list_type"
  | mappingExpected => "dict_type"
  | modelExpected => "model_type"
  | badKey => "invalid_key"

/-- A problem and where it is. -/
structure ShapeError where
  path : List PathStep
  problem : Problem
deriving DecidableEq

/-- A value of the expected shape, or everything that is wrong. -/
inductive Shaped (α : Type)
  | good (value : α)
  | bad (errors : List ShapeError)

namespace Shaped

/-- Everything that is wrong; nothing for a good value. -/
def problems {α : Type} : Shaped α → List ShapeError
  | good _ => []
  | bad es => es

/-- The value of a good reading. -/
def value? {α : Type} : Shaped α → Option α
  | good a => some a
  | bad _ => none

/-- Applies a read function to a read argument; the problems of both are kept in order. -/
def apply {α β : Type} : Shaped (α → β) → Shaped α → Shaped β
  | good f, good a => good (f a)
  | f, a => bad (f.problems ++ a.problems)

instance : Applicative Shaped where
  pure := good
  seq f a := apply f (a ())

/-- A single problem at the value itself. -/
def fail {α : Type} (p : Problem) : Shaped α := bad [⟨[], p⟩]

/-- The same reading, one step further inside. -/
def within {α : Type} (step : PathStep) : Shaped α → Shaped α
  | good a => good a
  | bad es => bad (es.map fun e => ⟨step :: e.path, e.problem⟩)

/-- Readings of a list, all problems kept. -/
def all {α : Type} : List (Shaped α) → Shaped (List α)
  | [] => good []
  | a :: rest => (List.cons <$> a) <*> all rest

/-- A list reads well exactly when each member does. -/
theorem all_eq_good_iff {α : Type} {xs : List (Shaped α)} {ys : List α} :
    all xs = .good ys ↔ xs = ys.map good := by
  induction xs generalizing ys with
  | nil => cases ys <;> simp [all]
  | cons x rest ih =>
    cases ys with
    | nil =>
      refine iff_of_false (fun h => ?_) (List.cons_ne_nil x rest)
      rw [all] at h
      cases x <;> cases hrest : all rest <;> simp [hrest, Seq.seq, Functor.map, apply] at h
    | cons y ys =>
      rw [all, List.map_cons, List.cons.injEq, ← ih]
      cases x <;> cases hrest : all rest <;> simp [Seq.seq, Functor.map, apply]

/-- Members that all read well are a list that does. -/
theorem all_map_good {α β : Type} {read : β → Shaped α} {value : β → α} {xs : List β}
    (h : ∀ x ∈ xs, read x = .good (value x)) : all (xs.map read) = .good (xs.map value) := by
  rw [all_eq_good_iff, List.map_map]
  exact List.map_congr_left h

/-- **Nothing that is wrong on either side is lost.** -/
theorem seq_problems {α β : Type} (f : Shaped (α → β)) (a : Shaped α) :
    (f <*> a).problems = f.problems ++ a.problems := by
  cases f <;> cases a <;> simp [Seq.seq, apply, problems]

end Shaped

/-! ## 2. Simple values -/

/-- Reads text. -/
def readText : Value → Shaped Text
  | .text t => .good t
  | _ => .fail .textExpected

/-- Only text reads as text. -/
theorem readText_eq_ok_iff (v : Value) (t : Text) : readText v = .good t ↔ v = .text t := by
  cases v <;> simp [readText, Shaped.fail]

/-- Reads null as absent. -/
def readOptional {α : Type} (read : Value → Shaped α) : Value → Shaped (Option α)
  | .null => .good none
  | v => some <$> read v

/-- The words for the two truth values. -/
def truthWords : List (String × Bool) :=
  [("0", false), ("off", false), ("f", false), ("false", false), ("n", false), ("no", false),
   ("1", true), ("on", true), ("t", true), ("true", true), ("y", true), ("yes", true)]

/-- How far a machine word with a sign reaches. -/
def wordLimit : Nat := Nat.pow 2 63

/-- Does an integer fit a machine word with a sign? -/
def fitsWord (i : Int) : Bool := -(wordLimit : Int) ≤ i && i < wordLimit

/-- Zero and one as truth values. -/
def truthOfInt (i : Int) : Shaped Bool :=
  if i = 0 then .good false else if i = 1 then .good true else .fail .truthUnreadable

/-- Reads a truth value: a number equal to zero or one and the usual words count as one.  Other whole
numbers are unreadable as long as they are within reach of a machine word; all else is of the wrong
kind. -/
def readTruth : Value → Shaped Bool
  | .bool b => .good b
  | .int i => if fitsWord i then truthOfInt i else .fail .truthExpected
  | .float x =>
    match x.toInt? with
    | some i => if i.natAbs < wordLimit then truthOfInt i else .fail .truthExpected
    | none => .fail .truthExpected
  | .text t =>
    match truthWords.find? fun w => t.toAsciiLower = Text.ofString w.1 with
    | some w => .good w.2
    | none => .fail .truthUnreadable
  | _ => .fail .truthExpected

/-- Reads a float: integers within its range, truth values and numerals count as one. -/
def readNumber : Value → Shaped Binary64
  | .float x => .good x
  | .int i =>
    match Binary64.ofInt? i with
    | some x => .good x
    | none => .fail .numberExpected
  | .bool b => .good (if b then .ofRatio false 1 1 else .zero)
  | .text t =>
    match Numeral.readLoose? t with
    | some n => .good n.toBinary64
    | none => .fail .numberUnreadable
  | _ => .fail .numberExpected

/-- Reads one of several words. -/
def readChoice {α : Type} (choice? : Text → Option α) : Value → Shaped α
  | .text t =>
    match choice? t with
    | some a => .good a
    | none => .fail .notAChoice
  | _ => .fail .notAChoice

/-- Reads a list or tuple, each member with its index. -/
def readList {α : Type} (read : Value → Shaped α) (v : Value) : Shaped (List α) :=
  match v.members? with
  | some items => Shaped.all (items.zipIdx.map fun (item, i) => (read item).within (.index i))
  | none => .fail .listExpected

/-- The step that leads to the entry of a key; only an integer that fits a machine word is shown as
one. -/
def PathStep.ofKey : Key → PathStep
  | .text t => .name t
  | .int i => if fitsWord i then .index i else .name (Text.ofInt i)
  | .bool b => .index (if b then 1 else 0)
  | .float x => .name x.toShortest
  | .null => .name "None"

/-- Reads a mapping all of whose keys must be text. -/
def readTextMapping : Value → Shaped (List (Text × Value))
  | .mapping es =>
    Shaped.all (es.map fun (k, v) =>
      match k with
      | .text t => .good (t, v)
      | k => .bad [⟨[.ofKey k, .name "[key]"], .textExpected⟩])
  | _ => .fail .mappingExpected

/-- Only a mapping whose keys are texts reads as one, and it is read as it is. -/
theorem readTextMapping_eq_good_iff (v : Value) (fields : List (Text × Value)) :
    readTextMapping v = .good fields ↔ v = .mapping (fields.map fun e => (.text e.1, e.2)) := by
  cases v with
  | mapping es =>
    rw [readTextMapping, Shaped.all_eq_good_iff, Value.mapping.injEq]
    induction es generalizing fields with
    | nil => cases fields <;> simp
    | cons e rest ih =>
      obtain ⟨key, value⟩ := e
      cases fields with
      | nil => simp
      | cons field fields =>
        rw [List.map_cons, List.map_cons, List.map_cons, List.cons.injEq, List.cons.injEq, ih]
        cases key <;> simp [Prod.ext_iff]
  | _ => simp [readTextMapping, Shaped.fail]

/-! ## 3. Models: mappings with known fields -/

/-- The first of the names that is present, with its value. -/
def Entries.first? (es : Entries) : List String → Option (String × Value)
  | [] => none
  | name :: rest =>
    match es.get? name with
    | some v => some (name, v)
    | none => Entries.first? es rest

/-- Reads a field under the first of its names that is present; the field must be there. -/
def Entries.required {α : Type} (es : Entries) (names : List String) (read : Value → Shaped α) :
    Shaped α :=
  match es.first? names with
  | some (name, v) => (read v).within (.name name)
  | none => .bad [⟨[.name (names.headD "")], .missing⟩]

/-- Reads a field under the first of its names that is present, with a default. -/
def Entries.optional {α : Type} (es : Entries) (names : List String) (default : α)
    (read : Value → Shaped α) : Shaped α :=
  match es.first? names with
  | some (name, v) => (read v).within (.name name)
  | none => .good default

/-- The entries that no field has used; each key must be text. -/
def Entries.others (es : Entries) (fields : List (List String)) : Shaped (List (Text × Value)) :=
  let used : List Text := fields.filterMap fun names => (es.first? names).map (Text.ofString ·.1)
  Shaped.all ((es.filter fun e => !(e.1.text?.any used.contains)).map fun (k, v) =>
    match k with
    | .text t => .good (t, v)
    | k => .bad [⟨[.ofKey k], .badKey⟩])

/-- Reads a model from a mapping. -/
def readModel {α : Type} (read : Entries → Shaped α) : Value → Shaped α
  | .mapping es => read es
  | _ => .fail .modelExpected

end WorkflowGate
