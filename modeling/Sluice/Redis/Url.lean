import Sluice.SocketAddress
import Sluice.Text.Basic

namespace Sluice.Redis

inductive UrlFault where
  -- It is no URL, or not one of a Redis server.
  | malformed
  | noHost
  | noEncryption
  | badDatabase
  -- It names no file, although its scheme asks for one.
  | noPath
  deriving DecidableEq, Repr

def UrlFault.message : UrlFault → String
  | malformed => "Redis URL did not parse"
  | noHost => "Missing hostname"
  | noEncryption => "can't connect with TLS, the feature is not enabled"
  | badDatabase => "Invalid database number"
  | noPath => "Missing path"

namespace Url

-- The characters that count: without control characters and blanks at the ends, and without tabs and
-- line breaks anywhere.
def cleaned (cs : List Char) : List Char :=
  let isEdge (c : Char) : Bool := c.toNat ≤ 0x20
  (((cs.dropWhile isEdge).reverse.dropWhile isEdge).reverse).filter fun c => c ≠ '\t' && c ≠ '\n' && c ≠ '\r'

-- The scheme in lower case, and what follows its colon.
def scheme? (cs : List Char) : Option (String × List Char) :=
  let name := cs.takeWhile fun c => c.isAlphanum || c = '+' || c = '-' || c = '.'
  match name, cs.drop name.length with
  | c :: _, ':' :: rest => if c.isAlpha then some (String.ofList (name.map Char.toLower), rest) else none
  | _, _ => none

-- Whether an authority ends here.
def endsAuthority (c : Char) : Bool :=
  c = '/' || c = '?' || c = '#'

-- What stands before the last `@`, if there is one, and what stands behind it.
def splitUser (authority : List Char) : Option (List Char) × List Char :=
  let host := (authority.reverse.takeWhile (· ≠ '@')).reverse
  if host.length = authority.length then (none, authority)
  else (some (authority.take (authority.length - host.length - 1)), host)

-- The host up to its port: a colon inside brackets does not end it.
def hostLength (inBrackets : Bool) : List Char → Nat
  | [] => 0
  | c :: cs =>
    if c = ':' && !inBrackets then 0
    else hostLength (c = '[' || (inBrackets && c ≠ ']')) cs + 1

def isForbidden (c : Char) : Bool :=
  c = '\x00' || " #/:<>?@[\\]^|".toList.contains c

-- Whether a host is well formed: an IPv6 address in brackets, or a text without forbidden characters.
def isHost (host : List Char) : Bool :=
  match host with
  | '[' :: rest =>
    rest.getLast? = some ']' &&
      (match SocketAddress.allGroups? rest.dropLast with
       | some (_, []) => true
       | _ => false)
  | _ => !host.any isForbidden

-- Whether a port is well formed: nothing, or a number of 16 bits. What follows a backslash is not part
-- of it.
def isPort (port : List Char) : Bool :=
  let ds := port.takeWhile (· ≠ '\\')
  ds.isEmpty || (naturalUpTo? 65535 ds).isSome

-- The parts of an address that matter.
structure Parts where
  scheme : String
  host   : Option (List Char)
  -- The path; `none` where it does not start with a slash.
  path   : Option (List Char)

-- What remains of a path up to the query or the fragment.
def pathText (cs : List Char) : List Char :=
  cs.takeWhile fun c => c ≠ '?' && c ≠ '#'

-- Reads an address that has an authority.
def parseAuthority? (scheme : String) (cs : List Char) : Option Parts :=
  let authority := cs.takeWhile (!endsAuthority ·)
  let rest := cs.drop authority.length
  let (user, hostPort) := splitUser authority
  let hasUser := match user with | some u => !u.isEmpty && u ≠ [':'] | none => false
  let host := hostPort.take (hostLength false hostPort)
  let port := hostPort.drop host.length
  -- An `@` with nothing on either side stands before a path that has no host.
  if user = some [] && hostPort.isEmpty && !rest.isEmpty then none
  else if host.isEmpty && (hasUser || !port.isEmpty) then none
  else if !isHost host || !isPort (port.drop 1) then none
  else
    some
      { scheme
        host := if host.isEmpty then none else some host
        path := some (port.dropWhile (· ≠ '\\') ++ pathText rest) }

-- The host may be any text without the characters that delimit parts; the path, where there is one, is the
-- number of a database.
def parse? (cs : List Char) : Option Parts := do
  let (scheme, rest) ← scheme? (cleaned cs)
  if scheme ∉ ["redis", "rediss", "redis+unix", "unix"] then none
  match rest with
  | '/' :: '/' :: rest => parseAuthority? scheme rest
  | '/' :: _ => return { scheme, host := none, path := some (pathText rest) }
  | _ => return { scheme, host := none, path := none }

-- The steps of a path, with those that only mean the same place or the one above it resolved.
def resolved (steps : List (List Char)) : List (List Char) :=
  (steps.foldl (fun done step =>
    if isHere step then done
    else if isAbove step then done.drop 1
    else step :: done) []).reverse
where
  -- A step in which an escaped dot is written as one.
  dotted (step : List Char) : String :=
    ((String.ofList step).toLower).replace "%2e" "."
  isHere (step : List Char) : Bool := dotted step = "."
  isAbove (step : List Char) : Bool := dotted step = ".."

def trimmedPath (cs : List Char) : List Char :=
  let text := (['/'].intercalate (resolved (splitAtEach '/' cs)))
  ((text.dropWhile (· = '/')).reverse.dropWhile (· = '/')).reverse

-- Whether a path is the number of a database: none, or a whole number of 64 bits.
def isDatabase (cs : List Char) : Bool :=
  match trimmedPath cs with
  | [] => true
  | text => (integer64? text).isSome

-- Whether a server can be asked for at that address.
def check (url : String) : Except UrlFault Unit :=
  match parse? url.toList with
  | none => .error .malformed
  | some parts =>
    if parts.scheme = "unix" || parts.scheme = "redis+unix" then
      -- Such an address names a file, and only on this machine.
      match parts.host, parts.path with
      | none, some _ => .ok ()
      | some host, some _ => if host = "localhost".toList then .ok () else .error .noPath
      | _, none => .error .noPath
    else if parts.host.isNone then .error .noHost
    else if parts.scheme = "rediss" then .error .noEncryption
    else if !isDatabase (parts.path.getD []) then .error .badDatabase
    else .ok ()

end Url

end Sluice.Redis
