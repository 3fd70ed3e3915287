import Sluice.Text.Utf8
import Sluice.Json.Basic

namespace Sluice

-- Names are lower case; the values of one name keep their order.
abbrev Headers := List (String × Bytes)

namespace Headers

def values (hs : Headers) (name : String) : List Bytes :=
  hs.filterMap fun (n, v) => if n = name then some v else none

def value? (hs : Headers) (name : String) : Option Bytes :=
  (hs.values name).head?

-- The text of a value that consists of visible ASCII characters, spaces and tabs.
def visible? (v : Bytes) : Option (List Char) :=
  if v.all fun b => (0x20 ≤ b && b < 0x7F) || b = 9 then some (v.map fun b => Char.ofNat b.toNat) else none

-- The headers in ascending order of their names; those of one name keep their order.
def sorted (hs : Headers) : Headers :=
  hs.mergeSort fun a b => (compare a.1 b.1).isLE

end Headers

structure Response where
  status  : Nat
  headers : Headers
  body    : Bytes
  deriving DecidableEq, Repr

structure Call where
  method   : String
  payload  : Json
  metadata : Headers

namespace Call

def rooted (method : String) : String :=
  if method.toList.head? = some '/' then method else "/" ++ method

def make (method : String) (payload : Json) (metadata : Headers) : Call :=
  { method := rooted method, payload, metadata }

-- A value in the payload: a name with a slash in front is a pointer, any other names a field.
def field? (c : Call) (name : String) : Option Json :=
  if name.toList.head? = some '/' then c.payload.pointer? name else c.payload.field? name

end Call

end Sluice
