import Sluice.Format
import Sluice.Yaml.Core
import Sluice.Yaml.Node

namespace Sluice.Yaml

def standardTag (name : String) : String :=
  "tag:yaml.org,2002:" ++ name

structure Scalar where
  tag   : Option String
  style : Style
  text  : String

namespace Scalar

def chars (s : Scalar) : List Char := s.text.toList

-- Whether it is a plain scalar without text.
def isEmpty (s : Scalar) : Bool :=
  s.style = .plain && s.text.isEmpty

-- Whether it may stand for a number of that kind.
def mayBe (s : Scalar) (kind : String) : Bool :=
  s.style = .plain || (s.style = .literal && s.tag = some (standardTag kind))

-- Whether it stands for nothing. One that carries the tag for that must be written so.
def isNothing? (s : Scalar) : Option Bool :=
  if s.style ≠ .plain then some false
  else
    match s.tag with
    | none => some (s.text.isEmpty || Core.isNull s.chars)
    | some tag =>
      if tag ≠ standardTag "null" then some false
      else if Core.isNull s.chars then some true
      else none

-- The name that a scalar chooses: its own tag if it has one, and then it holds nothing, else its text.
def chosen? (s : Scalar) : Option String :=
  match s.tag.map String.toList with
  | some ('!' :: name) =>
    if s.style = .plain && (s.text.isEmpty || Core.isNull s.chars) then some (String.ofList name) else none
  | _ => some s.text

end Scalar

namespace Document

variable (d : Document)

-- The node that is meant: what an alias refers to, or the node itself.
def target (node : Node) : Option Node :=
  match node with
  | .alias number => d.resolve? number
  | _ => some node

def scalar? (node : Node) : Option Scalar := do
  match ← d.target node with
  | .scalar tag style text => return { tag, style, text }
  | _ => none

def items? (node : Node) : Option (List Node) := do
  match ← d.target node with
  | .sequence _ items => return items
  | .scalar tag style text => if Scalar.isEmpty { tag, style, text } then return [] else none
  | _ => none

-- The pairs of a mapping, whose keys must be scalars.
def pairs? (node : Node) : Option (List (String × Node)) := do
  match ← d.target node with
  | .mapping _ pairs => pairs.mapM fun (key, value) => (d.scalar? key).map fun key => (key.text, value)
  | .scalar tag style text => if Scalar.isEmpty { tag, style, text } then return [] else none
  | _ => none

-- A value that is given, or `none` where there is nothing.
def given? (node : Node) : Option (Option Node) := do
  let node ← d.target node
  match node with
  | .scalar tag style text =>
    return if ← Scalar.isNothing? { tag, style, text } then none else some node
  | _ => return some node

def natural? (word : Word) (node : Node) : Option Nat := do
  let s ← d.scalar? node
  if !s.mayBe "int" then none
  let i ← Core.integer? s.chars
  if 0 ≤ i && i < word.bound then return i.toNat else none

def integer? (node : Node) : Option Int := do
  let s ← d.scalar? node
  if !s.mayBe "int" then none
  let i ← Core.integer? s.chars
  if fitsInt64 i then return i else none

def double? (node : Node) : Option Float := do
  let s ← d.scalar? node
  if s.mayBe "float" then Core.double? s.chars else none

def choice? (names : List String) (node : Node) : Option (Fin names.length) := do
  names.finIdxOf? (← (← d.scalar? node).chosen?)

-- The entries of a record, none of whose fields is given twice.
def entries? (names : List String) (node : Node) : Option (Entries Node Unit) := do
  let pairs ← d.pairs? node
  let known := (pairs.map (·.1)).filter names.contains
  if known.eraseDups.length ≠ known.length then none
  return { names, present := pairs, absent := fun _ => (), surplus := none }

-- Reads that succeed or fail without a reason.
def accepted {α : Type} (r : Option α) : Except Unit α :=
  match r with
  | some a => .ok a
  | none => .error ()

def format : Format Node Unit where
  text node := accepted ((d.scalar? node).map (·.text))
  natural word node := accepted (d.natural? word node)
  integer node := accepted (d.integer? node)
  double node := accepted (d.double? node)
  items node := accepted (d.items? node)
  given node := accepted (d.given? node)
  choice names node := accepted (d.choice? names node)
  entries _ names node := accepted (d.entries? names node)

end Document

end Sluice.Yaml
