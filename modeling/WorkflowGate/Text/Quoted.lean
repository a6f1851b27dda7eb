/-
# Quoted text

A text between quotes, as messages show an identifier or a list of them.  Single quotes are used
unless the text holds one and no double quote.  The backslash and the quote are escaped, and so is
every code point that is not printable: by a letter, or in hexadecimal with two, four or eight
digits.
-/
import WorkflowGate.Text.Printable

namespace WorkflowGate

namespace Text

/-- A number in hexadecimal small letters, padded with zeros to a width. -/
def hex (width n : Nat) : Text :=
  let digits := Nat.toDigits 16 n
  ofString (String.ofList (List.replicate (width - digits.length) '0' ++ digits))

/-- The quote that a quoted text stands between. -/
def quoteMark (t : Text) : CodePoint :=
  if t.contains "'" && !t.contains "\"" then ('"' : Char) else ('\'' : Char)

/-- A code point by its number, in two, four or eight hexadecimal digits. -/
def escapedPoint (p : CodePoint) : Text :=
  if p.val < 0x100 then "\\x" ++ hex 2 p.val
  else if p.val < 0x10000 then "\\u" ++ hex 4 p.val
  else "\\U" ++ hex 8 p.val

/-- One code point between the given quotes. -/
def quotePoint (quote p : CodePoint) : Text :=
  if p = quote || p = ('\\' : Char) then ⟨[('\\' : Char), p]⟩
  else if p = ('\n' : Char) then "\\n"
  else if p = ('\r' : Char) then "\\r"
  else if p = ('\t' : Char) then "\\t"
  else if p.isPrintable then ⟨[p]⟩
  else escapedPoint p

/-- The text between quotes. -/
def quoted (t : Text) : Text :=
  let quote := t.quoteMark
  ⟨[quote]⟩ ++ concat (t.points.map (quotePoint quote)) ++ ⟨[quote]⟩

/-- Quoted texts in brackets, with commas between them. -/
def quotedList (ts : List Text) : Text := "[" ++ join ", " (ts.map quoted) ++ "]"

end Text

end WorkflowGate
