/-
# Which entries can be read

Whatever lies on a canvas has a reading, but for two things: an integer in the place of an id with
more digits than may be written, and a form with values too deep within others.

* `succeeds_readNode_iff`, `succeeds_readEdge_iff`: the places that are looked at, by name;
* `succeeds_ofBatches_iff`: a canvas has a snapshot exactly when all its entries can be read.
-/
import Mathlib.Algebra.Group.Nat.Defs
import WorkflowGate.Graph.Snapshot
import WorkflowGate.Proofs.Result

namespace WorkflowGate

open Result

namespace Value

/-- An integer, if the value is one, has no more digits than may be written. -/
def Writable : Value → Prop
  | int i => i.natAbs < 10 ^ writtenDigitLimit
  | _ => True

/-- An integer can be written when it does not have too many digits. -/
theorem succeeds_writeInteger_iff (i : Int) : Succeeds (writeInteger i) ↔ (int i).Writable := by
  have hdigits : (toString i.natAbs).length ≤ writtenDigitLimit ↔
      i.natAbs < 10 ^ writtenDigitLimit := Nat.length_repr_le_iff (by decide)
  rw [writeInteger, Writable, ← hdigits]
  split
  next h => exact iff_of_true (succeeds_ok _) h
  next h => exact iff_of_false (not_succeeds_error _) h

theorem succeeds_idOf_iff (v : Value) : Succeeds (idOf v) ↔ v.Writable := by
  cases v with
  | int i => rw [idOf, succeeds_map_iff, succeeds_writeInteger_iff]
  | _ => exact iff_of_true (succeeds_ok _) trivial

end Value

namespace Entries

/-- The value that names the group of a node. -/
def parentValue (es : Entries) : Value :=
  firstTruthy [es.get "parent_id", es.get "parentId", es.get "parentNode",
    (dataOf es).get "parentNode"]

/-- The values that name an edge, its ends and its handles. -/
def edgeNames (es : Entries) : List Value :=
  [es.get "source", es.get "target", (es.get? "source_handle").getD (es.get "sourceHandle"),
    (es.get? "target_handle").getD (es.get "targetHandle"), es.get "id"]

end Entries

namespace Value

/-- A value that can be read as a node: if it is a mapping, its id and its group can be written and
its form is not too deep. -/
def ReadableNode : Value → Prop
  | mapping es =>
    (Entries.get es "id").Writable ∧
      (∀ e ∈ configOf es (dataOf es), e.2.height ≤ Room.form) ∧
      (Entries.parentValue es).Writable
  | _ => True

/-- Lists within lists, so many of them. -/
def nested : Nat → Value
  | 0 => null
  | n + 1 => list [nested n]

@[simp] theorem height_nested (n : Nat) : (nested n).height = n + 1 := by
  induction n with
  | zero => rfl
  | succ n ih => simp [nested, height, greatestHeight, ih]

/-- A value that can be read as an edge: if it is a mapping, all its names can be written. -/
def ReadableEdge : Value → Prop
  | mapping es => ∀ v ∈ Entries.edgeNames es, v.Writable
  | _ => True

theorem succeeds_takeConfig_iff (config : Entries) :
    Succeeds (takeConfig config) ↔ ∀ e ∈ config, e.2.height ≤ Room.form := by
  unfold takeConfig
  split
  next h => exact iff_of_true (succeeds_ok _) (by simpa using h)
  next h => exact iff_of_false (not_succeeds_error _) (by simpa using h)

theorem succeeds_readNode_iff (v : Value) : Succeeds (Entry.raw v).readNode ↔ v.ReadableNode := by
  cases v with
  | mapping es =>
    rw [Entry.readNode, nodeOfEntries, ReadableNode, ← succeeds_idOf_iff, ← succeeds_idOf_iff,
      ← succeeds_takeConfig_iff]
    refine succeeds_bind_iff_and fun id => succeeds_bind_iff_and fun config => ?_
    refine succeeds_bind_iff_left fun parentId => ?_
    cases id with
    | none => exact succeeds_pure _
    | some id => cases readTextMapping (.mapping config) <;> exact succeeds_pure _
  | _ => exact iff_of_true (succeeds_ok _) trivial

theorem succeeds_readEdge_iff (v : Value) : Succeeds (Entry.raw v).readEdge ↔ v.ReadableEdge := by
  cases v with
  | mapping es =>
    rw [Entry.readEdge, edgeOfEntries, ReadableEdge, Entries.edgeNames]
    simp only [List.forall_mem_cons, ← succeeds_idOf_iff]
    refine succeeds_bind_iff_and fun source => succeeds_bind_iff_and fun target => ?_
    refine succeeds_bind_iff_and fun sourceHandle => succeeds_bind_iff_and fun targetHandle => ?_
    refine (succeeds_bind_iff_left fun id => ?_).trans (by simp)
    cases source <;> cases target <;> exact succeeds_pure _
  | _ => exact iff_of_true (succeeds_ok _) trivial

end Value

namespace Snapshot

/-- **The members of two lists make a canvas exactly when all of them can be read.** -/
theorem succeeds_ofBatches_iff (ns es : List Value) :
    Succeeds (ofBatches (.entries (ns.map .raw)) (.entries (es.map .raw))) ↔
      (∀ v ∈ ns, v.ReadableNode) ∧ ∀ v ∈ es, v.ReadableEdge := by
  have hmapM {α β : Type} {read : Entry α → Except Fault β} {vs : List Value} :
      Succeeds ((vs.map Entry.raw).mapM read) ↔ ∀ v ∈ vs, Succeeds (read (.raw v)) := by
    rw [succeeds_mapM_iff, List.forall_mem_map]
  simp only [← Value.succeeds_readNode_iff, ← Value.succeeds_readEdge_iff, ← hmapM]
  exact succeeds_bind_iff_and fun _ => succeeds_bind_iff_left fun _ => succeeds_pure _

end Snapshot

end WorkflowGate
