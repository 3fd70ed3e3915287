import Sluice.Text.Basic

namespace Sluice

inductive SocketAddress where
  | v4 (octets : List Nat) (port : Nat)
  -- The `groups` are eight numbers of 16 bits.
  | v6 (groups : List Nat) (scope : Nat) (port : Nat)
  deriving DecidableEq, Repr

namespace SocketAddress

-- Reads something from the front of a text.
abbrev Scan (α : Type) := List Char → Option (α × List Char)

-- A number: all digits there are, at most `width` of them, and less than `bound`.
def number? (base bound : Nat) (width : Option Nat) : Scan Nat := fun cs => do
  let ds := cs.takeWhile fun c => (digit? base c).isSome
  let n ← natural? base ds
  if width.any (· < ds.length) || bound ≤ n then none else some (n, cs.drop ds.length)

def char? (c : Char) : Scan Unit
  | d :: cs => if c = d then some ((), cs) else none
  | [] => none

-- A number below 256, without zeros in front.
def octet? : Scan Nat := fun cs =>
  match cs with
  | '0' :: c :: _ => if c.isDigit then none else some (0, cs.drop 1)
  | _ => number? 10 256 (some 3) cs

def octets? : Scan (List Nat) := fun cs => do
  let (a, cs) ← octet? cs
  let ((), cs) ← char? '.' cs
  let (b, cs) ← octet? cs
  let ((), cs) ← char? '.' cs
  let (c, cs) ← octet? cs
  let ((), cs) ← char? '.' cs
  let (d, cs) ← octet? cs
  return ([a, b, c, d], cs)

-- The colon before a group, unless it is the first.
def separator? (first : Bool) : Scan Unit := fun cs =>
  if first then some ((), cs) else char? ':' cs

-- Two groups that are written as an IPv4 address.
def embedded? (first : Bool) : Scan (List Nat) := fun cs => do
  let ((), cs) ← separator? first cs
  match ← octets? cs with
  | ([a, b, c, d], cs) => return ([256 * a + b, 256 * c + d], cs)
  | _ => none

def group? (first : Bool) : Scan Nat := fun cs => do
  let ((), cs) ← separator? first cs
  number? 16 0x10000 (some 4) cs

-- As many groups as there are, up to `room`. Also tells whether the last two are an IPv4 address, which
-- ends them.
def groups (room : Nat) (first : Bool) (cs : List Char) : List Nat × Bool × List Char :=
  match room with
  | 0 => ([], false, cs)
  | room + 1 =>
    -- An IPv4 address takes the room of two groups.
    match (if 0 < room then embedded? first cs else none) with
    | some (gs, cs) => (gs, true, cs)
    | none =>
      match group? first cs with
      | none => ([], false, cs)
      | some (g, cs) =>
        let (gs, isEmbedded, cs) := groups room false cs
        (g :: gs, isEmbedded, cs)

-- The eight groups of an IPv6 address. A double colon stands for one zero group at least.
def allGroups? : Scan (List Nat) := fun cs =>
  let (head, isEmbedded, cs) := groups 8 true cs
  if head.length = 8 then some (head, cs)
  else if isEmbedded then none
  else
    match cs with
    | ':' :: ':' :: cs =>
      -- The double colon takes one group away from those that may follow it.
      let (tail, _, cs) := groups (7 - head.length) true cs
      some (head ++ List.replicate (8 - head.length - tail.length) 0 ++ tail, cs)
    | _ => none

def port? : Scan Nat := fun cs => do
  let ((), cs) ← char? ':' cs
  number? 10 65536 none cs

def v4? : Scan SocketAddress := fun cs => do
  let (octets, cs) ← octets? cs
  let (port, cs) ← port? cs
  return (.v4 octets port, cs)

-- The scope that an address is valid in; none is zero.
def scope? : Scan Nat
  | '%' :: cs => number? 10 UInt32.size none cs
  | cs => some (0, cs)

def v6? : Scan SocketAddress := fun cs => do
  let ((), cs) ← char? '[' cs
  let (groups, cs) ← allGroups? cs
  let (scope, cs) ← scope? cs
  let ((), cs) ← char? ']' cs
  let (port, cs) ← port? cs
  return (.v6 groups scope port, cs)

def parse? (s : String) : Option SocketAddress :=
  match (v4? s.toList).orElse fun _ => v6? s.toList with
  | some (a, []) => some a
  | _ => none

def octetsText (octets : List Nat) : String :=
  ".".intercalate (octets.map toString)

def groupsText (groups : List Nat) : String :=
  ":".intercalate (groups.map fun g => String.ofList (Nat.toDigits 16 g))

-- The length of the zeros in front.
def zeros (groups : List Nat) : Nat :=
  (groups.takeWhile (· = 0)).length

-- Where the longest stretch of zeros starts, and its length; of several the first.
def longestZeros : List Nat → Nat × Nat
  | [] => (0, 0)
  | g :: gs =>
    let (start, length) := longestZeros gs
    let here := zeros (g :: gs)
    if length ≤ here then (0, here) else (start + 1, length)

-- The canonical text of an IPv6 address: the longest stretch of two or more zero groups is left out, and
-- an IPv4 address in IPv6 form keeps its dots.
def v6Text (groups : List Nat) : String :=
  match groups with
  | [0, 0, 0, 0, 0, 0xFFFF, a, b] => "::ffff:" ++ octetsText [a / 256, a % 256, b / 256, b % 256]
  | _ =>
    let (start, length) := longestZeros groups
    if 1 < length then groupsText (groups.take start) ++ "::" ++ groupsText (groups.drop (start + length))
    else groupsText groups

def text : SocketAddress → String
  | .v4 octets port => s!"{octetsText octets}:{port}"
  | .v6 groups scope port =>
    if scope = 0 then s!"[{v6Text groups}]:{port}" else s!"[{v6Text groups}%{scope}]:{port}"

end SocketAddress

end Sluice
