/-
# Reading schemas

Palettes hand schemas over as mappings, in the editor's spelling (`nodeType`, `displayName`, `type`)
or in the plain one.  The editor's spelling wins when both are there, and the other name then counts
as an extra entry, as does every entry that is not known.

Handles are texts or mappings with an `id`.  Going through the handles can stop the reading
altogether, before any other problem is reported: at a value one cannot go through, or at a mapping
without an id.
-/
import WorkflowGate.Fault
import WorkflowGate.Schema.Basic

namespace WorkflowGate

namespace FieldSpec

/-- The names of each entry, the preferred one first. -/
def entryNames : List (List String) :=
  [["id"], ["label"], ["type", "value_kind"], ["required"], ["is_credential"], ["minimum"],
   ["maximum"], ["description"]]

/-- Reads a field from the entries of a mapping. -/
def ofEntries (es : Entries) : Shaped FieldSpec :=
  FieldSpec.mk <$> es.required ["id"] readText
    <*> es.optional ["label"] Text.empty readText
    <*> es.optional ["type", "value_kind"] .text (readChoice ValueKind.ofName?)
    <*> es.optional ["required"] false readTruth
    <*> es.optional ["is_credential"] false readTruth
    <*> es.optional ["minimum"] none (readOptional readNumber)
    <*> es.optional ["maximum"] none (readOptional readNumber)
    <*> es.optional ["description"] Text.empty readText
    <*> es.others entryNames

/-- Reads a field. -/
def read (v : Value) : Shaped FieldSpec := readModel ofEntries v

end FieldSpec

namespace KindSchema

/-- The names of each entry, the preferred one first. -/
def entryNames : List (List String) :=
  [["nodeType", "kind"], ["displayName", "display_name"], ["category"], ["description"],
   ["fields"], ["inputs"], ["outputs"]]

/-- A declared handle: a mapping stands for its id. -/
def handleValue : Value → Except Fault Value
  | .mapping es =>
    match Entries.get? es "id" with
    | some v => .ok v
    | none => .error (.missingEntry "id")
  | v => .ok v

/-- The declared handles as values; null means that none are declared. -/
def handleValues (v : Value) : Except Fault (Option (List Value)) :=
  match v with
  | .null => .ok none
  | v =>
    match v.iterated? with
    | some items => some <$> items.mapM handleValue
    | none => .error (.notIterable v.kindWord)

/-- The handle values under a name, if the name is there. -/
def declaredHandles (es : Entries) (name : String) : Except Fault (Option (List Value)) :=
  match es.get? name with
  | some v => handleValues v
  | none => .ok none

/-- Reads declared handles. -/
def readHandles (name : String) : Option (List Value) → Shaped (Option (List Text))
  | none => .good none
  | some vs => some <$> (readList readText (.list vs)).within (.name name)

/-- Reads a schema from the entries of a mapping, given its handle values. -/
def ofEntries (es : Entries) (inputs outputs : Option (List Value)) : Shaped KindSchema :=
  KindSchema.mk <$> es.required ["nodeType", "kind"] readText
    <*> es.optional ["displayName", "display_name"] Text.empty readText
    <*> es.optional ["category"] .generic (readChoice KindCategory.ofName?)
    <*> es.optional ["description"] Text.empty readText
    <*> es.optional ["fields"] [] (readList FieldSpec.read)
    <*> readHandles "inputs" inputs
    <*> readHandles "outputs" outputs
    <*> es.others entryNames

/-- The name of the model in messages. -/
def modelName : String := "NodeKindSchema"

/-- Reads a schema. -/
def read (v : Value) : Except Fault KindSchema :=
  match v with
  | .mapping es => do
    let inputs ← declaredHandles es "inputs"
    let outputs ← declaredHandles es "outputs"
    Fault.ofShaped modelName (ofEntries es inputs outputs)
  | _ => .error (.shape modelName [⟨[], .modelExpected⟩])

/-- Reads a schema that was looked up for a kind: a mapping, in which the kind need not be
repeated. -/
def readFor (kind : Text) (v : Value) : Except Fault KindSchema :=
  match v with
  | .mapping es => read (.mapping (Entries.ofList ((.text "nodeType", .text kind) :: es)))
  | v => .error (.notAMapping v.kindWord)

end KindSchema

end WorkflowGate
