import Sluice.Decimal.Layout
import Sluice.Text.Basic

namespace Sluice

-- A whole number that fits into 64 bits is an integer, any other number a double. The fields of an object are
-- in ascending order of their names, each name once.
inductive Json where
  | null
  | bool (b : Bool)
  | int (i : Int)
  | float (f : Float)
  | str (s : String)
  | arr (items : List Json)
  | obj (fields : List (String × Json))
  deriving Inhabited, BEq

namespace Json

-- The fields with one more; a field of the same name is replaced.
def insertField (name : String) (v : Json) : List (String × Json) → List (String × Json)
  | [] => [(name, v)]
  | (other, w) :: fields =>
    match compare name other with
    | .lt => (name, v) :: (other, w) :: fields
    | .eq => (name, v) :: fields
    | .gt => (other, w) :: insertField name v fields

-- The object with these fields. Of two fields with one name the later one counts.
def ofFields (fields : List (String × Json)) : Json :=
  .obj (fields.foldl (fun acc (name, v) => insertField name v acc) [])

-- The field of that name, in an object that has it.
def field? : Json → String → Option Json
  | .obj fields, name => (fields.find? (·.1 = name)).map (·.2)
  | _, _ => none

def str? : Json → Option String
  | .str s => some s
  | _ => none

-- Doubles take the fewest digits that read back, positional from `10 ^ -5` up to `10 ^ 16`.
def floatLayout : Decimal.Layout :=
  { positional := some (-5, 16), keepFraction := true, tie := .even }

-- A token with its escapes resolved: first `~1`, then `~0`.
def unescapeToken (cs : List Char) : String :=
  String.ofList (tildes (slashes cs))
where
  slashes : List Char → List Char
    | '~' :: '1' :: cs => '/' :: slashes cs
    | c :: cs => c :: slashes cs
    | [] => []
  tildes : List Char → List Char
    | '~' :: '0' :: cs => '~' :: tildes cs
    | c :: cs => c :: tildes cs
    | [] => []

-- The index that a token names: digits only, and no zero in front of another digit.
def index? (token : String) : Option Nat :=
  match token.toList with
  | [] => none
  | '0' :: _ :: _ => none
  | cs => natural? 10 cs

-- One step into a value.
def child? (v : Json) (token : String) : Option Json :=
  match v with
  | .obj _ => v.field? token
  | .arr items => (index? token).bind (items[·]?)
  | _ => none

-- The value at a pointer. The empty pointer names the value itself.
def pointer? (v : Json) (p : String) : Option Json :=
  match p.toList with
  | [] => some v
  | '/' :: cs => (splitAtEach '/' cs).foldl (fun at? token => at?.bind (·.child? (unescapeToken token))) (some v)
  | _ => none

end Json

end Sluice
