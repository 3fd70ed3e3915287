import Sluice.Text.Basic

namespace Sluice

-- The entries of a record, of which `names` are the fields in the order of their declaration. They are visited
-- in the notation's own order, and fields that are missing are reported after all that are present.
structure Entries (ν ε : Type) where
  names   : List String
  -- What is there, in the order in which it is visited.
  present : List (String × ν)
  -- Why a record without that field is refused.
  absent  : String → ε
  -- Why the record is refused although all its fields can be read.
  surplus : Option ε

-- How the values `ν` of a notation are read; `ε` says why one is refused.
structure Format (ν ε : Type) where
  text    : ν → Except ε String
  natural : Word → ν → Except ε Nat
  -- A whole number with a sign, of 64 bits.
  integer : ν → Except ε Int
  double  : ν → Except ε Float
  items   : ν → Except ε (List ν)
  -- The value itself, unless it stands for nothing.
  given   : ν → Except ε (Option ν)
  -- Which of the names it is.
  choice  : (names : List String) → ν → Except ε (Fin names.length)
  -- The entries of the record of that name and with these fields.
  entries : String → List String → ν → Except ε (Entries ν ε)

-- Reads something from the entries of a record. A failure says how far the visit had come by then.
def Fields (ν ε α : Type) := Entries ν ε → Except (Nat × ε) α

namespace Fields

variable {ν ε α β : Type}

-- Both results, or the failure that comes first.
def combine (f : Except (Nat × ε) (α → β)) (a : Except (Nat × ε) α) : Except (Nat × ε) β :=
  match f, a with
  | .ok f, .ok a => .ok (f a)
  | .ok _, .error e => .error e
  | .error e, .ok _ => .error e
  | .error e, .error e' => .error (if e'.1 < e.1 then e' else e)

instance : Applicative (Fields ν ε) where
  pure a := fun _ => .ok a
  seq f a := fun entries => combine (f entries) (a () entries)

-- The field of that name, or `absent` says what stands for it.
def lookup (name : String) (read : ν → Except ε α) (absent : Entries ν ε → Except (Nat × ε) α) : Fields ν ε α :=
  fun entries =>
    match entries.present.zipIdx.find? (·.1.1 = name) with
    | some ((_, v), i) => (read v).mapError (i, ·)
    | none => absent entries

def required (name : String) (read : ν → Except ε α) : Fields ν ε α :=
  lookup name read fun entries =>
    .error (entries.present.length + entries.names.idxOf name, entries.absent name)

-- A field that may be left out; then `value` stands for it.
def withDefault (name : String) (value : α) (read : ν → Except ε α) : Fields ν ε α :=
  lookup name read fun _ => .ok value

end Fields

namespace Format

variable {ν ε α : Type} (fmt : Format ν ε)

def optional (read : ν → Except ε α) (v : ν) : Except ε (Option α) := do
  match ← fmt.given v with
  | some v => return some (← read v)
  | none => return none

def list (read : ν → Except ε α) (v : ν) : Except ε (List α) := do
  (← fmt.items v).mapM read

def oneOf (options : List (String × α)) (v : ν) : Except ε α := do
  let i ← fmt.choice (options.map (·.1)) v
  return (options.get (i.cast (List.length_map ..))).2

def record (name : String) (names : List String) (fields : Fields ν ε α) (v : ν) : Except ε α := do
  let entries ← fmt.entries name names v
  let value ← (fields entries).mapError (·.2)
  match entries.surplus with
  | some e => throw e
  | none => return value

end Format

end Sluice
