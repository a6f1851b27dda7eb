/-
# Writing JSON

One printer with a layout record: the separators, the indentation if any, and whether everything
beyond ASCII is escaped.  Tuples are written as lists, keys that are not text as texts.  Floats are
written with the fewest digits that read back.
-/
import WorkflowGate.Value

namespace WorkflowGate.Json

/-- How a value is laid out. -/
structure Layout where
  itemSeparator : String
  keySeparator : String
  indent : Option Nat
  asciiOnly : Bool

/-- On one line with a space after commas and colons, all in printable ASCII: a line of a log. -/
def Layout.line : Layout := ⟨", ", ": ", none, true⟩

/-- Without any spaces, text as it is: a request. -/
def Layout.compact : Layout := ⟨",", ":", none, false⟩

/-- Two spaces of indentation, text as it is: a report to read. -/
def Layout.report : Layout := ⟨",", ": ", some 2, false⟩

/-- A code point in a string. -/
def escapePoint (asciiOnly : Bool) (p : CodePoint) : Text :=
  if p = ('"' : Char) then "\\\""
  else if p = ('\\' : Char) then "\\\\"
  else if p = ('\n' : Char) then "\\n"
  else if p = ('\r' : Char) then "\\r"
  else if p = ('\t' : Char) then "\\t"
  else if p.val = 0x08 then "\\b"
  else if p.val = 0x0C then "\\f"
  else if p.val < 0x20 then "\\u" ++ Text.hex 4 p.val
  else if asciiOnly && 0x7F ≤ p.val then
    if p.val < 0x10000 then "\\u" ++ Text.hex 4 p.val
    else
      let n := p.val - 0x10000
      "\\u" ++ Text.hex 4 (0xD800 + n / 0x400) ++ Text.ofString "\\u" ++
        Text.hex 4 (0xDC00 + n % 0x400)
  else ⟨[p]⟩

/-- A text as a string in double quotes. -/
def writeString (asciiOnly : Bool) (t : Text) : Text :=
  "\"" ++ Text.concat (t.points.map (escapePoint asciiOnly)) ++ "\""

/-- The text that a key is written as. -/
def keyText : Key → Text
  | .text t => t
  | .int i => Text.ofInt i
  | .float x => x.toDataWord
  | .bool b => Text.ofString (if b then "true" else "false")
  | .null => "null"

/-- A line break and the indentation of a depth, if the layout indents. -/
def lineBreak (layout : Layout) (depth : Nat) : Text :=
  match layout.indent with
  | none => Text.empty
  | some n => Text.ofString (String.ofList ('\n' :: List.replicate (n * depth) ' '))

/-- Parts between two marks, each on a line of its own if the layout indents. -/
def enclose (layout : Layout) (depth : Nat) (opening closing : String) (parts : List Text) : Text :=
  if parts.isEmpty then opening ++ (closing : Text)
  else
    opening ++ lineBreak layout (depth + 1) ++
      Text.join (layout.itemSeparator ++ lineBreak layout (depth + 1)) parts ++
      lineBreak layout depth ++ closing

mutual

/-- A value at a depth. -/
def writeAt (layout : Layout) (depth : Nat) : Value → Text
  | .null => "null"
  | .bool b => Text.ofString (if b then "true" else "false")
  | .int i => Text.ofInt i
  | .float x => x.toDataWord
  | .text t => writeString layout.asciiOnly t
  | .list items => enclose layout depth "[" "]" (writeItems layout (depth + 1) items)
  | .tuple items => enclose layout depth "[" "]" (writeItems layout (depth + 1) items)
  | .mapping es => enclose layout depth "\x7b" "\x7d" (writeEntries layout (depth + 1) es)

/-- Each item at a depth. -/
def writeItems (layout : Layout) (depth : Nat) : List Value → List Text
  | [] => []
  | v :: rest => writeAt layout depth v :: writeItems layout depth rest

/-- Each entry at a depth. -/
def writeEntries (layout : Layout) (depth : Nat) : List (Key × Value) → List Text
  | [] => []
  | (k, v) :: rest =>
    (writeString layout.asciiOnly (keyText k) ++ layout.keySeparator ++ writeAt layout depth v) ::
      writeEntries layout depth rest

end

/-- The text of a value. -/
def write (layout : Layout) (v : Value) : Text := writeAt layout 0 v

end WorkflowGate.Json
