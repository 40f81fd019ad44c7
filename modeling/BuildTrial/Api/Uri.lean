/-!
# Addresses on the net

An address may name a scheme, an authority to ask, and what to ask it for. With a scheme it has an
authority too; without one it is either an authority alone, or what to ask for alone, which then
begins with a slash. An anchor at the end is cut off.
-/

namespace BuildTrial.Api

inductive UriFault where
  | empty
  | tooLong
  | schemeTooLong
  | badCharacter
  | badAuthority
  /-- The parts are not all there, or there are too many. -/
  | badForm
deriving DecidableEq, Repr

def UriFault.message : UriFault → String
  | .empty => "empty string"
  | .tooLong => "uri too long"
  | .schemeTooLong => "scheme too long"
  | .badCharacter => "invalid uri character"
  | .badAuthority => "invalid authority"
  | .badForm => "invalid format"

structure Uri where
  scheme : Option String := none
  authority : String := ""
  /-- The path and the query. -/
  target : String := ""
deriving DecidableEq, Repr

namespace Uri

def text (u : Uri) : String :=
  let start := match u.scheme with
    | some scheme => scheme ++ "://"
    | none => ""
  start ++ u.authority ++ u.target

/-! ## Schemes -/

def schemeLimit : Nat := 64

def isSchemeChar (c : Char) : Bool := c.isAlphanum || ['+', '-', '.', '~'].contains c

/-- Schemes that are the same in upper case. -/
def commonSchemes : List String := ["http", "https"]

/-- The scheme in front of a colon and two slashes, and what is after them; nothing inside if there
is no scheme. -/
def splitScheme (cs : List Char) : Except UriFault (Option (String × List Char)) :=
  let name := cs.takeWhile isSchemeChar
  match cs.dropWhile isSchemeChar with
  | ':' :: '/' :: '/' :: rest =>
    let lower := String.ofList (name.map Char.toLower)
    if commonSchemes.contains lower then .ok (some (lower, rest))
    else if schemeLimit < name.length then .error .schemeTooLong
    else .ok (some (String.ofList name, rest))
  | _ => .ok none

/-! ## Authorities -/

def isAuthorityChar (c : Char) : Bool := c.isAlphanum || "!$&'()*+,-.;=_~".toList.contains c

/-- What counts in an authority up to some place. -/
structure AuthorityScan where
  /-- The colons that may stand before a port. -/
  colons : Nat := 0
  /-- Whether a bracket was opened. -/
  opened : Bool := false
  /-- Whether it was closed again. -/
  closed : Bool := false
  /-- Whether there is a percent sign that does not belong to credentials or in brackets. -/
  percent : Bool := false
deriving DecidableEq, Repr

/-- The number of colons that may stand in a row of parts. -/
def colonLimit : Nat := 8

namespace AuthorityScan

/-- One more character. What is before an at sign are credentials, and what is in brackets is a
numeric host; colons and percent signs in them do not count. -/
def add (s : AuthorityScan) (c : Char) : Except UriFault AuthorityScan :=
  if c = ':' then
    if s.colons < colonLimit then .ok { s with colons := s.colons + 1 } else .error .badAuthority
  else if c = '[' then
    if s.percent || s.opened then .error .badAuthority else .ok { s with opened := true }
  else if c = ']' then
    if !s.opened || s.closed then .error .badAuthority
    else .ok { s with closed := true, colons := 0, percent := false }
  else if c = '@' then .ok { s with colons := 0, percent := false }
  else if c = '%' then .ok { s with percent := true }
  else if isAuthorityChar c then .ok s
  else .error .badCharacter

/-- Whether an authority may end here. -/
def isComplete (s : AuthorityScan) : Bool := s.opened = s.closed && s.colons ≤ 1 && !s.percent

end AuthorityScan

def endsAuthority (c : Char) : Bool := c = '/' || c = '?' || c = '#'

/-- The authority at the front, which may be empty, and what follows it. -/
def splitAuthority (cs : List Char) : Except UriFault (String × List Char) := do
  let authority := cs.takeWhile (!endsAuthority ·)
  let scan : AuthorityScan ← authority.foldlM AuthorityScan.add {}
  if scan.isComplete && authority.getLast? ≠ some '@' then
    return (String.ofList authority, cs.dropWhile (!endsAuthority ·))
  else .error .badAuthority

/-! ## Targets -/

/-- The characters that may stand in a path: all but the controls, the blank and the signs for an
anchor, a query, angle brackets and a back quote. -/
def isPathChar (c : Char) : Bool :=
  '!' ≤ c && !(['#', '<', '>', '?', Char.ofNat 0x60, Char.ofNat 0x7F].contains c)

def isQueryChar (c : Char) : Bool :=
  '!' ≤ c && !(['"', '#', '<', '>', Char.ofNat 0x7F].contains c)

/-- A path, up to the first question mark, and a query, without the anchor after them. -/
def readTarget (cs : List Char) : Except UriFault String :=
  let target := cs.takeWhile (· ≠ '#')
  let path := target.takeWhile (· ≠ '?')
  let query := (target.dropWhile (· ≠ '?')).drop 1
  if path.all isPathChar && query.all isQueryChar then .ok (String.ofList target)
  else .error .badCharacter

/-- The path of an address with a scheme is not empty. -/
def rooted (target : String) : String :=
  if target.toList.head? = some '/' then target else "/" ++ target

/-! ## Addresses -/

/-- The number of bytes that an address may have. -/
def limit : Nat := 65534

/-- An address that is not only a target. -/
def ofParts (cs : List Char) : Except UriFault Uri := do
  match ← splitScheme cs with
  | none =>
    let (authority, rest) ← splitAuthority cs
    if rest.isEmpty then return { authority } else .error .badForm
  | some (scheme, rest) =>
    let (authority, rest) ← splitAuthority rest
    if authority.isEmpty then .error .badForm
    else return { scheme, authority, target := rooted (← readTarget rest) }

def parse (s : String) : Except UriFault Uri :=
  if limit < s.utf8ByteSize then .error .tooLong
  else
    match s.toList with
    | [] => .error .empty
    | ['*'] => .ok { target := "*" }
    | '/' :: rest => (readTarget ('/' :: rest)).map fun target => { target }
    | [c] => if endsAuthority c then .error .badCharacter else ofParts [c]
    | cs => ofParts cs

end Uri

end BuildTrial.Api
