/-
# Runs

What the analyses of one run share: the resolver, whose answers are kept from one analysis to the
next, and the log.  A run that stops with a fault keeps what it has resolved and logged so far.

* `Run.execute_bind`: what one computation leaves is what the next one begins with;
* `Run.execute_record`: writing records only adds to the log;
* `Run.execute_resolve`: resolving changes the run's resolver and log and nothing else;
* `Run.execute_resolve_of_cached`: a kind is resolved once.
-/
import WorkflowGate.Schema.Resolver

namespace WorkflowGate

/-- What the analyses of one run share. -/
structure RunState where
  resolver : Resolver
  log : List LogRecord := []

/-- A computation within a run. -/
abbrev Run := ExceptT Fault (StateM RunState)

namespace Run

/-- The state in which a run begins. -/
def begin (registry : Registry) (lookup : Option Lookup) : RunState :=
  { resolver := { registry := registry, lookup := lookup } }

/-- Adds records to the log. -/
def record (records : List LogRecord) : Run Unit :=
  modify fun s => { s with log := s.log ++ records }

/-- Takes over a result, or stops with its fault. -/
def lift {α : Type} : Except Fault α → Run α
  | .ok a => pure a
  | .error f => throw f

/-- The schema of a kind. -/
def resolve (kind : Text) : Run (Option KindSchema) := do
  let outcome := (← get).resolver.resolve kind
  modify fun s => { resolver := outcome.resolver, log := s.log ++ outcome.log }
  lift outcome.result

/-- The category of a kind. -/
def categoryOf (kind : Text) : Run KindCategory := do
  let schema ← resolve kind
  return (← get).resolver.categoryWith kind schema

/-- Does a node of the kind start a run of the workflow? -/
def isTrigger (kind : Text) : Run Bool := return (← categoryOf kind) = .trigger

/-- Does a node of the kind choose where a run of the workflow goes on? -/
def isBranching (kind : Text) : Run Bool := return (← categoryOf kind) = .controlFlow

/-- The kinds whose schemas could not be read, with the reasons. -/
def rejectedKinds : Run (OrderedMap Text Text) := return (← get).resolver.rejected

/-- Runs a computation: its result and the state it leaves. -/
def execute {α : Type} (r : Run α) (s : RunState) : Except Fault α × RunState :=
  StateT.run (ExceptT.run r) s

/-- A computation that does nothing leaves the state alone. -/
@[simp] theorem execute_pure {α : Type} (a : α) (s : RunState) :
    (pure a : Run α).execute s = (.ok a, s) := rfl

/-- **The second computation begins in the state that the first one leaves**; after a fault it does
not run. -/
theorem execute_bind {α β : Type} (r : Run α) (k : α → Run β) (s : RunState) :
    (r >>= k).execute s =
      match r.execute s with
      | (.ok a, s') => (k a).execute s'
      | (.error f, s') => (.error f, s') := by
  unfold execute ExceptT.run StateT.run
  simp only [bind, ExceptT.bind, ExceptT.mk, StateT.bind]
  cases r s with
  | mk result s' => cases result <;> rfl

/-- Writing records adds them at the end of the log and does nothing else. -/
@[simp] theorem execute_record (records : List LogRecord) (s : RunState) :
    (record records).execute s = (.ok (), { s with log := s.log ++ records }) := rfl

/-- Resolving gives what the resolver gives, whose state and records it takes over. -/
theorem execute_resolve (kind : Text) (s : RunState) :
    (resolve kind).execute s =
      ((s.resolver.resolve kind).result,
        { resolver := (s.resolver.resolve kind).resolver,
          log := s.log ++ (s.resolver.resolve kind).log }) := by
  show (lift (s.resolver.resolve kind).result).execute
    { resolver := (s.resolver.resolve kind).resolver,
      log := s.log ++ (s.resolver.resolve kind).log } = _
  cases (s.resolver.resolve kind).result <;> rfl

/-- What has been resolved once is resolved to the same schema again, and the state stays. -/
theorem execute_resolve_of_cached {s : RunState} {kind : Text} {schema : Option KindSchema}
    (hk : kind.isEmpty = false) (h : s.resolver.cache.find? kind = some schema) :
    (resolve kind).execute s = (.ok schema, s) := by
  simp [execute_resolve, Resolver.resolve_of_cached hk h]

end Run

end WorkflowGate
