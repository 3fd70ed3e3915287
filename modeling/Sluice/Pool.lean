import Sluice.Endpoint

namespace Sluice

structure Node where
  endpoint : Endpoint
  current  : Int
  deriving DecidableEq

namespace Node

def address (n : Node) : String := n.endpoint.address

def weight (n : Node) : Nat := n.endpoint.weight

def fresh (e : Endpoint) : Node :=
  { endpoint := e, current := 0 }

def raise (n : Node) : Node :=
  { n with current := n.current + n.weight }

-- The first node among those with the largest accumulator.
def leader? : List Node → Option Node
  | [] => none
  | n :: ns =>
    match leader? ns with
    | none => some n
    | some m => if n.current < m.current then some m else some n

end Node

structure Pool where
  nodes : List Node
  deriving DecidableEq

namespace Pool

def empty : Pool := ⟨[]⟩

instance : Inhabited Pool := ⟨empty⟩

def size (p : Pool) : Nat := p.nodes.length

def isEmpty (p : Pool) : Bool := p.nodes.isEmpty

-- The addresses, in the order of registration.
def addresses (p : Pool) : List String := p.nodes.map Node.address

def contains (p : Pool) (address : String) : Bool :=
  p.nodes.any (·.address = address)

def node? (p : Pool) (address : String) : Option Node :=
  p.nodes.find? (·.address = address)

def totalWeight (p : Pool) : Nat :=
  p.nodes.foldr (·.weight + ·) 0

def insert (p : Pool) (e : Endpoint) : Except Fault Pool :=
  if p.contains e.address then .error (.config s!"node {e.address} is already registered")
  else .ok ⟨p.nodes ++ [.fresh e]⟩

-- Registers a node, or gives the one with that address a new endpoint and keeps its place and
-- accumulator. Tells whether it is new.
def upsert (p : Pool) (e : Endpoint) : Bool × Pool :=
  if p.contains e.address then
    (false, ⟨p.nodes.map fun n => if n.address = e.address then { n with endpoint := e } else n⟩)
  else (true, ⟨p.nodes ++ [.fresh e]⟩)

def remove (p : Pool) (address : String) : Option Node × Pool :=
  (p.node? address, ⟨p.nodes.eraseP (·.address = address)⟩)

-- The pool of these endpoints, which must have different addresses.
def ofEndpoints (es : List Endpoint) : Except Fault Pool :=
  es.foldlM insert empty

-- Takes the total weight off the accumulator of the node with that address.
def payBack (address : String) (total : Int) (ns : List Node) : List Node :=
  ns.map fun n => if n.address = address then { n with current := n.current - total } else n

-- One selection: every accumulator is raised by its node's weight, the first node among those with the largest
-- one is picked, if there is a node at all, and the total weight is taken off its accumulator.
def advance (p : Pool) : Option Endpoint × Pool :=
  let raised := p.nodes.map Node.raise
  match Node.leader? raised with
  | none => (none, p)
  | some n => (some n.endpoint, ⟨payBack n.address p.totalWeight raised⟩)

-- One selection from a pool that must not be empty.
def select (p : Pool) : Except Fault Endpoint × Pool :=
  match p.advance with
  | (some e, p) => (.ok e, p)
  | (none, p) => (.error .emptyPool, p)

end Pool

end Sluice
