import Sluice.Fault
import Sluice.Text.Quoted
import Sluice.Uri

namespace Sluice

structure Endpoint where
  -- The address as it was registered.
  address   : String
  weight    : Nat
  scheme    : List Char
  authority : List Char
  target    : PathAndQuery
  weight_pos : 0 < weight
  weight_lt  : weight < UInt32.size
  parse_address : Uri.parse address.toList = .ok ⟨some scheme, some authority, target⟩
  deriving DecidableEq

namespace Endpoint

structure Location (address : String) where
  scheme    : List Char
  authority : List Char
  target    : PathAndQuery
  parse_address : Uri.parse address.toList = .ok ⟨some scheme, some authority, target⟩

def locate (address : String) : Except Fault (Location address) :=
  if address.isEmpty then .error (.config "node address must not be empty")
  else
    match h : Uri.parse address.toList with
    | .error e => .error (.config s!"invalid node address {quoted address}: {e.message}")
    | .ok ⟨some scheme, some authority, target⟩ => .ok ⟨scheme, authority, target, h⟩
    | .ok _ => .error (.config s!"node address needs a scheme and authority: {address}")

-- The endpoint with that address and weight. The weight is looked at first.
def make (address : String) (weight : Int) : Except Fault Endpoint :=
  if h : weight ≤ 0 then
    .error (.config s!"node weight must be positive, got {weight} for {address}")
  else if h' : UInt32.size ≤ weight then
    .error (.config s!"node weight {weight} is too large for {address}")
  else
    (locate address).map fun loc =>
      { loc with
        address, weight := weight.toNat
        weight_pos := by omega
        weight_lt := by omega }

end Endpoint

end Sluice
