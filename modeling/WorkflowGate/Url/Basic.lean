/-
# Addresses of resources

An address is cut into scheme, authority, path, query and fragment, and the authority into user,
host and port.  Each part is checked and brought into one written form: the scheme and an ASCII host
in small letters, a host beyond ASCII in its ASCII form, the port left out when it is the usual one
of the scheme, dots that stand for a place in the path resolved, everything else that may not stand
as it is as percent signs and hexadecimal digits.

A text can be an address without being an absolute one; `isAbsolute` asks for scheme and host.
-/
import WorkflowGate.Fault
import WorkflowGate.Number.Numeral
import WorkflowGate.Text.Blank
import WorkflowGate.Url.Address
import WorkflowGate.Url.Label

namespace WorkflowGate

/-- An address in its written form. -/
structure Url where
  scheme : Text
  user : Text
  host : Text
  port : Option Int
  path : Text
  query : Option Text
  fragment : Option Text
deriving DecidableEq

namespace Url

/-! ## 1. Cutting -/

/-- The greatest length of an address. -/
def lengthLimit : Nat := 65536

/-- The parts of an address as they stand. -/
structure Parts where
  scheme : Text
  authority : Text
  path : Text
  query : Option Text
  fragment : Option Text

/-- The parts that are there, one after the other. -/
def Parts.all (p : Parts) : List Text :=
  [p.scheme, p.authority, p.path] ++ p.query.toList ++ p.fragment.toList

/-- May the code point stand in a scheme behind its first letter? -/
def isSchemePoint (p : CodePoint) : Bool :=
  p.isAsciiLetter || p.isAsciiDigit || p.val = 0x2B || p.val = 0x2D || p.val = 0x2E

/-- The scheme, empty if there is none, and what follows its colon. -/
def cutScheme (t : Text) : Text × Text :=
  let colon : CodePoint := (':' : Char)
  let word :=
    match t.points with
    | p :: rest => if p.isAsciiLetter then p :: rest.takeWhile isSchemePoint else []
    | [] => []
  if (t.points.drop word.length).head? = some colon then (⟨word⟩, t.drop (word.length + 1))
  else (Text.empty, t)

/-- Cuts an address into its parts. -/
def cut (t : Text) : Parts :=
  let (t, fragment) := t.cutAt ('#' : Char)
  let isEnd (p : CodePoint) : Bool := p.val = 0x2F || p.val = 0x3F
  let (scheme, rest) := cutScheme t
  let (authority, rest) :=
    if rest.startsWith "//" then
      let authority : Text := ⟨(rest.points.drop 2).takeWhile fun p => !isEnd p⟩
      (authority, rest.drop (authority.length + 2))
    else (Text.empty, rest)
  let (path, query) := rest.cutAt ('?' : Char)
  ⟨scheme, authority, path, query, fragment⟩

/-- What stands before and after the last occurrence of a code point; nothing before it if there is
none. -/
def cutAtLast (t : Text) (separator : CodePoint) : Text × Text :=
  let after := (t.points.reverse.takeWhile (· ≠ separator)).reverse
  (⟨t.points.take (t.points.length - after.length - 1)⟩, ⟨after⟩)

/-- User, host and port of an authority.  The host may stand in brackets. -/
def cutAuthority (t : Text) : Text × Text × Text :=
  let (user, rest) := cutAtLast t ('@' : Char)
  let colon : CodePoint := (':' : Char)
  let bracketed := rest.points.take (cutAtLast rest (']' : Char)).1.points.length
  let host : List CodePoint :=
    if rest.startsWith "[" && rest.contains "]" then bracketed ++ [CodePoint.ofChar ']']
    else rest.points.takeWhile (· ≠ colon)
  let rest := rest.points.drop host.length
  let port := if rest.head? = some colon then rest.drop 1 else rest
  (user, ⟨host⟩, ⟨port⟩)

/-! ## 2. Escapes -/

/-- The code points that must be escaped in every part, beside what is not printable ASCII. -/
def fragmentEscapes : Text := " \"<>\x60"

/-- The code points that must be escaped in a query. -/
def queryEscapes : Text := " \"#<>"

/-- The code points that must be escaped in a path. -/
def pathEscapes : Text := queryEscapes ++ Text.ofString "?\x60\x7b\x7d"

/-- The code points that must be escaped in a user. -/
def userEscapes : Text := pathEscapes ++ Text.ofString "/;=@[\\]^|"

/-- The code points, letters and digits apart, that may stand in a host. -/
def hostMarks : Text := "-._~!$&'()*+,;=\"\x60\x7b\x7d%|\\"

/-- Printable ASCII, the given code points apart. -/
def isPlain (escapes : Text) (p : CodePoint) : Bool :=
  0x20 ≤ p.val && p.val < 0x7F && !escapes.points.contains p

/-- A byte as a percent sign and two hexadecimal capitals. -/
def escapeByte (b : UInt8) : Text :=
  let digit (n : Nat) : CodePoint := CodePoint.ofNat (if n < 10 then 0x30 + n else 0x37 + n)
  ⟨[('%' : Char), digit (b.toNat / 16), digit (b.toNat % 16)]⟩

/-- Escapes every code point that does not satisfy the test; a surrogate cannot be escaped. -/
def escape (keeps : CodePoint → Bool) (t : Text) : Except Fault Text :=
  if t.hasSurrogate then .error .unencodable
  else
    .ok (Text.concat (t.points.map fun p =>
      if keeps p then ⟨[p]⟩ else Text.concat ((Utf8.encodePoint p).map escapeByte)))

/-! ## 3. Checking the parts -/

/-- The written form of a host. -/
def readHost (host : Text) : Except Fault Text :=
  if host.isEmpty then .ok host
  else if Address.isDottedStyle host then
    if Address.isVersion4 host then .ok host else .error .invalidAddress
  else if host.startsWith "[" && host.endsWith "]" then
    let inner : Text := ⟨(host.points.drop 1).dropLast⟩
    if Address.isVersion6 inner then .ok inner else .error .invalidAddress
  else if host.isAscii then
    escape (fun p => p.isAsciiLetter || p.isAsciiDigit || hostMarks.points.contains p)
      host.toAsciiLower
  else
    match Domain.encode? host.toLower with
    | some encoded => .ok encoded
    | none => .error .invalidAddress

/-- The usual ports. -/
def usualPorts : List (String × Int) :=
  [("ftp", 21), ("http", 80), ("https", 443), ("ws", 80), ("wss", 443)]

/-- The usual port of a scheme that is written in small letters. -/
def usualPort? (scheme : Text) : Option Int :=
  (usualPorts.find? fun e => Text.ofString e.1 = scheme).map (·.2)

/-- The port, unless it is absent or the usual one. -/
def readPort (scheme port : Text) : Except Fault (Option Int) :=
  if port.isEmpty then .ok none
  else
    match Numeral.readInteger? port with
    | none => .error .invalidAddress
    | some n => .ok (if usualPort? scheme = some n then none else some n)

/-- Does the path fit what stands before it? -/
def pathFits (path : Text) (hasScheme hasAuthority : Bool) : Bool :=
  if hasAuthority then path.isEmpty || path.startsWith "/"
  else hasScheme || !(path.startsWith "//" || path.startsWith ":")

/-- Resolves the segments of a path that stand for the same place and for the one above; `done` is
what has been resolved, last first. -/
def resolveSegments (done : List Text) : List Text → List Text
  | [] => done.reverse
  | segment :: rest =>
    if segment = Text.ofString "." then resolveSegments done rest
    else if segment = Text.ofString ".." then
      resolveSegments (if done = [Text.empty] then done else done.drop 1) rest
    else resolveSegments (segment :: done) rest

/-- The path without segments that stand for a place. -/
def resolvePath (path : Text) : Text :=
  Text.join "/" (resolveSegments [] (path.splitOn ('/' : Char)))

/-- Reads an address from its parts. -/
def ofParts (p : Parts) : Except Fault Url := do
  let (user, host, port) := cutAuthority p.authority
  let user ← escape (isPlain userEscapes) user
  let host ← readHost host
  let port ← readPort p.scheme port
  let scheme := p.scheme.toAsciiLower
  let hasScheme := !scheme.isEmpty
  let hasAuthority := !user.isEmpty || !host.isEmpty || port.isSome
  if !pathFits p.path hasScheme hasAuthority then throw .invalidAddress
  let path := if hasScheme || hasAuthority then resolvePath p.path else p.path
  let path ← escape (isPlain pathEscapes) path
  let query ← p.query.mapM (escape (isPlain queryEscapes))
  let fragment ← p.fragment.mapM (escape (isPlain fragmentEscapes))
  return ⟨scheme, user, host, port, path, query, fragment⟩

/-- A control code of ASCII. -/
def isControl (p : CodePoint) : Bool := p.val < 0x20 || p.val = 0x7F

/-- Reads an address. -/
def read (t : Text) : Except Fault Url :=
  if t.length > lengthLimit || t.points.any isControl then .error .invalidAddress
  else ofParts (cut t)

/-! ## 4. Writing -/

/-- User, host and port as they are written. -/
def authority (u : Url) : Text :=
  (if u.user.isEmpty then Text.empty else u.user ++ "@") ++
    (if u.host.contains ":" then "[" ++ u.host ++ "]" else u.host) ++
    (match u.port with
      | some n => ":" ++ Text.ofInt n
      | none => Text.empty)

/-- The address as text. -/
def toText (u : Url) : Text :=
  let authority := u.authority
  (if u.scheme.isEmpty then Text.empty else u.scheme ++ ":") ++
    (if authority.isEmpty then Text.empty else "//" ++ authority) ++ u.path ++
    (match u.query with
      | some query => "?" ++ query
      | none => Text.empty) ++
    (match u.fragment with
      | some fragment => "#" ++ fragment
      | none => Text.empty)

/-- Path and query, a slash for the empty path. -/
def target (u : Url) : Text :=
  (if u.path.isEmpty then Text.ofString "/" else u.path) ++
    (match u.query with
      | some query => "?" ++ query
      | none => Text.empty)

/-- The address with another path and query, which are cut at the first question mark. -/
def withTarget (u : Url) (target : Text) : Except Fault Url :=
  let (path, query) := target.cutAt ('?' : Char)
  let parts : Parts := ⟨u.scheme, u.authority, path, query, u.fragment⟩
  if parts.all.any fun t => t.length > lengthLimit then .error .invalidAddress else ofParts parts

/-- The address of a place below this one. -/
def below (u : Url) (place : Text) : Except Fault Url := do
  let base ← if u.target.endsWith "/" then pure u else u.withTarget (u.target ++ "/")
  base.withTarget (base.target ++ place)

/-! ## 5. Absolute addresses -/

/-- Why the host cannot be shown.  Only one that begins like an encoded label need be decoded. -/
def hostProblem? (host : Text) : Option Label.Problem :=
  if host.startsWith Label.encodedMark then Domain.problem? host else none

/-- Does the text, blanks around it apart, spell an address with a scheme and a host? -/
def isAbsolute (t : Text) : Bool :=
  match read t.strip with
  | .error _ => false
  | .ok u => !u.scheme.isEmpty && !u.host.isEmpty && (hostProblem? u.host).isNone

end Url

end WorkflowGate
