import Sluice.Format
import Sluice.Json.Printer
import Sluice.Text.Quoted

namespace Sluice.Json

-- Why a JSON value is not what a schema asks for.
inductive Misfit where
  | kind (found : Json) (expected : String)
  | range (found : Int) (expected : String)
  -- An object where the only field was to be the name of a choice.
  | notSingle
  | missing (field : String)
  | unknownName (name : String) (names : List String)
  -- An array that is too short for a record.
  | tooShort (length : Nat) (record : String) (fields : Nat)
  | tooLong (length : Nat)

def described : Json → String
  | null => "null"
  | bool b => s!"boolean \x60{(bool b).render}\x60"
  | int i => s!"integer \x60{i}\x60"
  | float f => s!"floating point \x60{floatLayout.render f}\x60"
  | str s => s!"string {quoted s}"
  | arr _ => "sequence"
  | obj _ => "map"

namespace Misfit

-- The names that are possible, as a message lists them.
def listed (names : List String) : String :=
  let quoted := names.map fun n => s!"\x60{n}\x60"
  match quoted with
  | [] => "there are no variants"
  | [a] => s!"expected {a}"
  | [a, b] => s!"expected {a} or {b}"
  | _ => "expected one of " ++ ", ".intercalate quoted

def message : Misfit → String
  | kind found expected => s!"invalid type: {found.described}, expected {expected}"
  | range found expected => s!"invalid value: integer \x60{found}\x60, expected {expected}"
  | notSingle => "invalid value: map, expected map with a single key"
  | missing field => s!"missing field \x60{field}\x60"
  | unknownName name names => s!"unknown variant \x60{name}\x60, {listed names}"
  | tooShort length record fields =>
    s!"invalid length {length}, expected struct {record} with {fields} elements"
  | tooLong length => s!"invalid length {length}, expected fewer elements in array"

end Misfit

-- What a message calls the numbers of a kind.
def wordName : Word → String
  | .word32 => "u32"
  | .word64 => "u64"
  | .size => "usize"

def readNatural (word : Word) (v : Json) : Except Misfit Nat :=
  match v with
  | int i => if 0 ≤ i && i < word.bound then .ok i.toNat else .error (.range i (wordName word))
  | _ => .error (.kind v (wordName word))

def readInteger (v : Json) : Except Misfit Int :=
  match v with
  | int i => if fitsInt64 i then .ok i else .error (.range i "i64")
  | _ => .error (.kind v "i64")

-- A double, or a whole number that becomes one.
def readDouble (v : Json) : Except Misfit Float :=
  match v with
  | float f => .ok f
  | int i => .ok (Float.ofInt i)
  | _ => .error (.kind v "f64")

-- One of the names: a string, or an object with the name as its only field and nothing as its value. The name
-- is looked at before what goes with it.
def readChoice (names : List String) (v : Json) : Except Misfit (Fin names.length) :=
  let known (name : String) : Except Misfit (Fin names.length) :=
    match names.finIdxOf? name with
    | some i => .ok i
    | none => .error (.unknownName name names)
  match v with
  | str name => known name
  | obj [(name, payload)] => do
    let i ← known name
    match payload with
    | null => return i
    | _ => throw (.kind payload "unit")
  | obj _ => .error .notSingle
  | _ => .error (.kind v "string or map")

-- A record is an object, or an array of its fields in the order of their declaration.
def readEntries (record : String) (names : List String) (v : Json) : Except Misfit (Entries Json Misfit) :=
  match v with
  | obj fields => .ok { names, present := fields, absent := .missing, surplus := none }
  | arr items => .ok
    { names
      present := names.zip items
      absent := fun name => .tooShort (names.idxOf name) record names.length
      surplus := if names.length < items.length then some (.tooLong items.length) else none }
  | _ => .error (.kind v s!"struct {record}")

def format : Format Json Misfit where
  text
    | str s => .ok s
    | v => .error (.kind v "a string")
  natural := readNatural
  integer := readInteger
  double := readDouble
  items
    | arr items => .ok items
    | v => .error (.kind v "a sequence")
  given
    | null => .ok none
    | v => .ok (some v)
  choice := readChoice
  entries := readEntries

end Sluice.Json
