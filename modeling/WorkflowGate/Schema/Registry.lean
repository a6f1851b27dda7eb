/-
# The registry of node kinds

A registry maps kinds to their schemas, in order of registration.  A kind that is not registered has
a category all the same: one whose name ends in `_trigger` starts a run, any other is generic.

* `find?_put`: a registered schema is found under its kind;
* `register_eq_error_iff`: registration fails exactly for a kind that is there and not replaced.
-/
import WorkflowGate.Fault
import WorkflowGate.Schema.Palette

namespace WorkflowGate

/-- Schemas by kind, in order of registration. -/
structure Registry where
  schemas : OrderedMap Text KindSchema

namespace Registry

/-- The registry without kinds. -/
def empty : Registry := ⟨OrderedMap.empty⟩

/-- The schema of a kind. -/
def find? (r : Registry) (kind : Text) : Option KindSchema := r.schemas.find? kind

/-- Is the kind registered? -/
def contains (r : Registry) (kind : Text) : Bool := r.schemas.contains kind

/-- The kinds in order of registration. -/
def kinds (r : Registry) : List Text := r.schemas.keys

/-- How many kinds. -/
def size (r : Registry) : Nat := r.schemas.size

/-- Registers a schema under its kind.  A kind that is there already must be replaced on
purpose. -/
def register (r : Registry) (s : KindSchema) (replace : Bool := false) : Except Fault Registry :=
  if r.contains s.kind && !replace then .error (.alreadyRegistered s.kind)
  else .ok ⟨r.schemas.insert s.kind s⟩

/-- Registers a schema, whatever was there. -/
def put (r : Registry) (s : KindSchema) : Registry := ⟨r.schemas.insert s.kind s⟩

/-- The registry of a list of schemas. -/
def ofList (ss : List KindSchema) : Registry := ss.foldl put empty

/-- The built-in palette. -/
def builtin : Registry := ofList Palette.schemas

/-- The category of a kind. -/
def categoryOf (r : Registry) (kind : Text) : KindCategory :=
  match r.find? kind with
  | some s => s.category
  | none => if kind.endsWith "_trigger" then .trigger else .generic

/-- Does a node of the kind start a run? -/
def isTrigger (r : Registry) (kind : Text) : Bool := r.categoryOf kind = .trigger

/-- Does a node of the kind choose where a run goes on? -/
def isBranching (r : Registry) (kind : Text) : Bool := r.categoryOf kind = .controlFlow

/-- A registered schema is found under its kind. -/
@[simp] theorem find?_put (r : Registry) (s : KindSchema) : (r.put s).find? s.kind = some s := by
  simp [put, find?]

/-- **Registration fails exactly for a kind that is there and is not to be replaced.** -/
theorem register_eq_error_iff (r : Registry) (s : KindSchema) (replace : Bool) (f : Fault) :
    r.register s replace = .error f ↔
      (s.kind ∈ r.kinds ∧ replace = false ∧ f = .alreadyRegistered s.kind) := by
  unfold register
  cases replace
  · by_cases h : r.contains s.kind = true
    · have hk : s.kind ∈ r.kinds := (OrderedMap.contains_iff _ _).mp h
      simp [h, hk, eq_comm]
    · have hk : s.kind ∉ r.kinds := fun hm => h ((OrderedMap.contains_iff _ _).mpr hm)
      simp [h, hk]
  · simp

end Registry

end WorkflowGate
