/-
# Resolving schemas during a run

One run resolves each kind once.  The caller may supply a lookup that is asked before anything else;
it may answer differently each time or fail, so it is modelled as a function of all the questions
put to it so far.  What it answers for a kind is kept, so every analysis of the run sees one schema;
an answer that cannot be read is kept as no schema, with the reason, and the log has all that the
reader says of it; a failure is not kept.

* `Resolver.resolve_of_cached`: a kept answer is given again and nothing is asked;
* `Resolver.resolve_empty`: the empty kind is never looked up.
-/
import WorkflowGate.Schema.Reading
import WorkflowGate.Schema.Registry
import WorkflowGate.Log.Record

namespace WorkflowGate

/-- What a lookup answers. -/
inductive LookupReply
  | absent
  | schema (s : KindSchema)
  /-- A value that is to be read as a schema.  If it is none, the library that reads it tells in detail
  what is wrong, in lines of its own below the one that `Fault.message` has. -/
  | value (v : Value) (details : Text := Text.empty)

/-- A lookup: the answer to the last of the kinds asked, all earlier ones given as well, in
order. -/
abbrev Lookup := List Text → Text → Except Fault LookupReply

/-- A lookup that answers every kind the same way each time. -/
def Lookup.ofFunction (f : Text → Except Fault LookupReply) : Lookup := fun _ kind => f kind

/-- The schemas of one run. -/
structure Resolver where
  registry : Registry
  lookup : Option Lookup := none
  cache : OrderedMap Text (Option KindSchema) := OrderedMap.empty
  rejected : OrderedMap Text Text := OrderedMap.empty
  asked : List Text := []

namespace Resolver

/-- Why an answer was rejected: the reason in one line, and all that is said below it. -/
structure Rejection where
  reason : Text
  details : Text

/-- The whole text of a rejection. -/
def Rejection.text (r : Rejection) : Text := r.reason ++ r.details

/-- What loading a kind gives: a schema or none, and the rejection if an answer was rejected. -/
structure Loaded where
  schema : Option KindSchema
  rejection : Option Rejection := none

/-- Can the run go on after the fault, the answer counting as unusable? -/
def isRejection : Fault → Bool
  | .shape _ _ => true
  | .notIterable _ => true
  | .notAMapping _ => true
  | _ => false

/-- The rejection for a fault.  Only on what has the wrong shape are there details. -/
def rejection (f : Fault) (details : Text) : Rejection :=
  match f with
  | .shape _ _ => ⟨f.message, details⟩
  | _ => ⟨f.message, Text.empty⟩

/-- Reads the answer of a lookup. -/
def readReply (kind : Text) : LookupReply → Except Fault Loaded
  | .absent => .ok ⟨none, none⟩
  | .schema s => .ok ⟨some s, none⟩
  | .value .null _ => .ok ⟨none, none⟩
  | .value v details =>
    match KindSchema.readFor kind v with
    | .ok s => .ok ⟨some s, none⟩
    | .error f => if isRejection f then .ok ⟨none, some (rejection f details)⟩ else .error f

/-- Loads a kind that is not kept yet: from the lookup if there is one, else from the registry. -/
def load (r : Resolver) (kind : Text) : Except Fault Loaded :=
  match r.lookup with
  | none => .ok ⟨r.registry.find? kind, none⟩
  | some ask => (ask r.asked kind).bind (readReply kind)

/-- The questions put to the lookup once a kind has been loaded. -/
def askedAfter (r : Resolver) (kind : Text) : List Text :=
  if r.lookup.isSome then r.asked ++ [kind] else r.asked

/-- The record of a rejected answer, with all that is said of it. -/
def rejectionRecord (kind : Text) (r : Rejection) : LogRecord :=
  .of .schemas .warning
    ("Schema lookup for kind '" ++ kind ++ "' returned an unusable schema: " ++ r.text)

/-- What resolving a kind leaves behind. -/
structure Outcome where
  result : Except Fault (Option KindSchema)
  resolver : Resolver
  log : List LogRecord

/-- Resolves a kind. -/
def resolve (r : Resolver) (kind : Text) : Outcome :=
  if kind.isEmpty then ⟨.ok none, r, []⟩
  else
    match r.cache.find? kind with
    | some s => ⟨.ok s, r, []⟩
    | none =>
      let asked := r.askedAfter kind
      match r.load kind with
      | .error f => ⟨.error f, { r with asked := asked }, []⟩
      | .ok loaded =>
        match loaded.rejection with
        | none =>
          ⟨.ok loaded.schema,
            { r with asked := asked, cache := r.cache.insert kind loaded.schema }, []⟩
        | some rejection =>
          ⟨.ok loaded.schema,
            { r with asked := asked, cache := r.cache.insert kind loaded.schema,
                     rejected := r.rejected.insert kind rejection.reason },
            [rejectionRecord kind rejection]⟩

/-- The category of a kind, given the schema that it resolves to. -/
def categoryWith (r : Resolver) (kind : Text) (schema : Option KindSchema) : KindCategory :=
  match schema with
  | some s => s.category
  | none => r.registry.categoryOf kind

/-- A kept answer is given again and nothing is asked. -/
theorem resolve_of_cached {r : Resolver} {kind : Text} {s : Option KindSchema}
    (hk : kind.isEmpty = false) (h : r.cache.find? kind = some s) :
    r.resolve kind = ⟨.ok s, r, []⟩ := by
  simp [resolve, hk, h]

/-- The empty kind is never looked up. -/
theorem resolve_empty (r : Resolver) : r.resolve Text.empty = ⟨.ok none, r, []⟩ := rfl

end Resolver

end WorkflowGate
