import Sluice.Text.Basic
import Sluice.Text.Utf8

namespace Sluice

inductive UriFault where
  | tooLong
  | empty
  | invalidChar
  | invalidAuthority
  | invalidFormat
  | schemeTooLong
  | noLeadingSlash
  deriving DecidableEq, Repr

def UriFault.message : UriFault → String
  | tooLong => "uri too long"
  | empty => "empty string"
  | invalidChar => "invalid uri character"
  | invalidAuthority => "invalid authority"
  | invalidFormat => "invalid format"
  | schemeTooLong => "scheme too long"
  | noLeadingSlash => "path does not start with slash"

-- A path with the query behind it, if there is one.
structure PathAndQuery where
  path  : List Char
  query : Option (List Char)
  deriving DecidableEq, Repr

structure Uri where
  scheme    : Option (List Char)
  authority : Option (List Char)
  target    : PathAndQuery
  deriving DecidableEq, Repr

namespace Uri

-- The bytes that a URI may have.
def lengthLimit : Nat := 65534

-- The characters that a scheme may have.
def schemeLimit : Nat := 64

def isSchemeChar (c : Char) : Bool :=
  c.isAlphanum || c = '+' || c = '-' || c = '.' || c = '~'

-- The text behind `word`, if it starts so in any case.
def afterIgnoringCase? (word cs : List Char) : Option (List Char) :=
  match word, cs with
  | [], cs => some cs
  | w :: word, c :: cs => if c.toLower = w then afterIgnoringCase? word cs else none
  | _ :: _, [] => none

-- The scheme, if there is one, and the text behind its `://`.
def splitScheme (cs : List Char) : Except UriFault (Option (List Char) × List Char) :=
  match afterIgnoringCase? "http://".toList cs with
  | some rest => .ok (some "http".toList, rest)
  | none =>
    match afterIgnoringCase? "https://".toList cs with
    | some rest => .ok (some "https".toList, rest)
    | none =>
      match cs.takeWhile isSchemeChar, cs.dropWhile isSchemeChar with
      | scheme, ':' :: '/' :: '/' :: rest =>
        -- `://` alone is no scheme, so it is read as a bare authority and refused.
        if scheme.isEmpty && rest.isEmpty then .ok (none, cs)
        else if schemeLimit < scheme.length then .error .schemeTooLong
        else .ok (some scheme, rest)
      | _, _ => .ok (none, cs)

def isDelimiter (c : Char) : Bool :=
  c = '/' || c = '?' || c = '#'

def isAuthorityChar (c : Char) : Bool :=
  c.isAlphanum || "!$&'()*+,-.:;=@[]_~".toList.contains c

-- What has been seen of an authority. A user part or a closing bracket makes colons and percent signs
-- before it count for nothing.
structure AuthorityScan where
  colons  : Nat := 0
  opened  : Bool := false
  closed  : Bool := false
  percent : Bool := false

namespace AuthorityScan

def colonLimit : Nat := 8

def step (s : AuthorityScan) (c : Char) : Except UriFault AuthorityScan :=
  match c with
  | ':' => if colonLimit ≤ s.colons then .error .invalidAuthority else .ok { s with colons := s.colons + 1 }
  | '[' => if s.percent || s.opened then .error .invalidAuthority else .ok { s with opened := true }
  | ']' =>
    if !s.opened || s.closed then .error .invalidAuthority
    else .ok { s with closed := true, colons := 0, percent := false }
  | '@' => .ok { s with colons := 0, percent := false }
  | '%' => .ok { s with percent := true }
  | c => if isAuthorityChar c then .ok s else .error .invalidChar

end AuthorityScan

def checkAuthority (cs : List Char) : Except UriFault Unit := do
  let s ← cs.foldlM AuthorityScan.step {}
  -- What is wrong with the whole is looked at only once every character has been.
  if s.opened != s.closed then throw .invalidAuthority
  if 1 < s.colons then throw .invalidAuthority
  if cs.getLast? = some '@' then throw .invalidAuthority
  if s.percent then throw .invalidAuthority

def isPathChar (c : Char) : Bool :=
  let n := c.toNat
  n = 0x21 || n = 0x22 || (0x24 ≤ n && n ≤ 0x3B) || n = 0x3D || (0x40 ≤ n && n ≤ 0x5F) ||
    (0x61 ≤ n && n ≤ 0x7E) || 0x80 ≤ n

def isQueryChar (c : Char) : Bool :=
  let n := c.toNat
  n = 0x21 || (0x24 ≤ n && n ≤ 0x3B) || n = 0x3D || (0x3F ≤ n && n ≤ 0x7E) || 0x80 ≤ n

def beforeFragment (cs : List Char) : List Char :=
  cs.takeWhile (· ≠ '#')

end Uri

-- Reads a path and its query. An empty path is `/`.
def PathAndQuery.parse (cs : List Char) : Except UriFault PathAndQuery := do
  if Uri.lengthLimit < Utf8.size cs then throw .tooLong
  match cs with
  | [] => return { path := ['/'], query := none }
  | c :: _ => if !Uri.isDelimiter c then throw .noLeadingSlash
  let shown := Uri.beforeFragment cs
  let path := shown.takeWhile (· ≠ '?')
  if !path.all Uri.isPathChar then throw .invalidChar
  let query := (shown.dropWhile (· ≠ '?')).tail?
  if !(query.getD []).all Uri.isQueryChar then throw .invalidChar
  return { path := if path.isEmpty then ['/'] else path, query }

namespace Uri

-- Reads a text that is no path: a scheme with authority and rest, or an authority alone.
def parseFull (cs : List Char) : Except UriFault Uri := do
  let (scheme, rest) ← splitScheme cs
  if rest.isEmpty then throw .empty
  let authority := rest.takeWhile (!isDelimiter ·)
  checkAuthority authority
  let rest := rest.dropWhile (!isDelimiter ·)
  match scheme with
  | none =>
    -- A bare authority is the whole text.
    if !rest.isEmpty then throw .invalidFormat
    return { scheme := none, authority := some authority, target := { path := [], query := none } }
  | some scheme =>
    if authority.isEmpty then throw .invalidFormat
    return { scheme := some scheme, authority := some authority, target := ← PathAndQuery.parse rest }

def parse (cs : List Char) : Except UriFault Uri := do
  if lengthLimit < Utf8.size cs then throw .tooLong
  match cs with
  | [] => throw .empty
  | ['*'] => return { scheme := none, authority := none, target := { path := ['*'], query := none } }
  | ['/'] => return { scheme := none, authority := none, target := { path := ['/'], query := none } }
  | '/' :: _ => return { scheme := none, authority := none, target := ← PathAndQuery.parse cs }
  | [c] => if isDelimiter c then throw .invalidChar else parseFull cs
  | _ => parseFull cs

-- The text behind the last `sep`, or all of it.
def afterLast (sep : Char) (cs : List Char) : List Char :=
  (cs.reverse.takeWhile (· ≠ sep)).reverse

-- The host of an authority: behind any user part, up to the bracket that ends a literal address or to
-- the first colon.
def host (authority : List Char) : List Char :=
  let hostPort := afterLast '@' authority
  if hostPort.head? = some '[' then hostPort.takeWhile (· ≠ ']') ++ [']']
  else hostPort.takeWhile (· ≠ ':')

-- A number from digits, which a plus sign may lead, up to `limit`.
def number? (limit : Nat) (cs : List Char) : Option Nat :=
  naturalUpTo? limit (if cs.head? = some '+' then cs.drop 1 else cs)

-- The port of an authority: what stands behind its last colon, where that is a port number.
def port? (authority : List Char) : Option Nat :=
  if authority.contains ':' then number? 65535 (afterLast ':' authority) else none

def text (u : Uri) : List Char :=
  (match u.scheme with | some s => s ++ "://".toList | none => []) ++ u.authority.getD [] ++
    u.target.path ++ (match u.target.query with | some q => '?' :: q | none => [])

end Uri

end Sluice
