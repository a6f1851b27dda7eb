/-
# Files

What stands at a place in the file system, and how its bytes are read: as UTF-8, possibly behind a
byte order mark, with line ends unified, and then as JSON.  What cannot be opened is refused with the
number and the words of the operating system.
-/
import WorkflowGate.Fault

namespace WorkflowGate

/-! ## 1. Places -/

/-- What stands at a place in the file system. -/
inductive FileState
  /-- Nothing. -/
  | missing
  /-- Nothing, since the place lies beneath something that is no directory. -/
  | beneathFile
  /-- Nothing, since no name may be that long. -/
  | nameTooLong
  /-- A directory. -/
  | directory
  /-- Something that may not be opened. -/
  | forbidden
  /-- Nothing that one could see, since the place lies in a directory that may not be searched. -/
  | hidden
  /-- A file with its bytes. -/
  | file (bytes : List UInt8)

namespace FileState

/-- The text of a file: UTF-8, possibly behind a byte order mark, with unified line ends. -/
def decode (bytes : List UInt8) : Except Fault Text :=
  match Utf8.decodeFile bytes with
  | .ok t => .ok t.unifyLineEnds
  | .error f => .error (.undecodable f)

/-- The value that bytes spell, with lists and mappings within each other up to a limit. -/
def readJson (limit : Nat) (bytes : List UInt8) : Except Fault Value := do
  match Json.read limit (← decode bytes) with
  | .ok v => return v
  | .error f => throw (.notJson f)

/-- The refusal of the operating system to open a place. -/
def refusal (number : Nat) (reason : String) (path : Text) : Fault :=
  .system
    ("[Errno " ++ Text.ofNat number ++ "] " ++ Text.ofString reason ++ ": " ++ path.quoted)

/-- The bytes of a file that is opened under a path. -/
def contents (path : Text) : FileState → Except Fault (List UInt8)
  | missing => .error (refusal 2 "No such file or directory" path)
  | beneathFile => .error (refusal 20 "Not a directory" path)
  | directory => .error (refusal 21 "Is a directory" path)
  | nameTooLong => .error (refusal 36 "File name too long" path)
  | forbidden => .error (refusal 13 "Permission denied" path)
  | hidden => .error (refusal 13 "Permission denied" path)
  | file bytes => .ok bytes

end FileState

/-! ## 2. Paths -/

namespace Path

/-- The parts of a path between its slashes; empty ones and single dots say nothing. -/
def parts (path : Text) : List Text :=
  (path.splitOn ('/' : Char)).filter fun part => !part.isEmpty && part ≠ Text.ofString "."

/-- The slashes with which a path from the root begins: one, or exactly two. -/
def root (path : Text) : Text :=
  match (path.points.takeWhile fun p : CodePoint => p = ('/' : Char)).length with
  | 0 => Text.empty
  | 2 => "//"
  | _ => "/"

/-- The path without parts that say nothing; a dot stands for the working directory. -/
def normalize (path : Text) : Text :=
  let t := root path ++ Text.join "/" (parts path)
  if t.isEmpty then "." else t

/-- Can a file go by the path at all? -/
def isUsable (path : Text) : Bool := !path.points.any fun p => p.val = 0

end Path

end WorkflowGate
