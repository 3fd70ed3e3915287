import Sluice.Json.Basic
import Sluice.Text.Utf8
import Sluice.Text.Basic

namespace Sluice.Json

inductive Cause where
  | endInValue
  | endInString
  | endInArray
  | endInObject
  | expectedValue
  | expectedIdent
  | expectedColon
  | expectedCommaOrBrace
  | expectedCommaOrBracket
  | keyNotString
  | trailingComma
  | trailingCharacters
  | invalidNumber
  | numberOutOfRange
  | invalidEscape
  | controlCharacter
  | loneSurrogate
  | unfinishedSurrogatePair
  | invalidUnicode
  | tooDeep
  deriving DecidableEq, Repr

def Cause.message : Cause → String
  | endInValue => "EOF while parsing a value"
  | endInString => "EOF while parsing a string"
  | endInArray => "EOF while parsing a list"
  | endInObject => "EOF while parsing an object"
  | expectedValue => "expected value"
  | expectedIdent => "expected ident"
  | expectedColon => "expected `:`"
  | expectedCommaOrBrace => "expected `,` or `\x7d`"
  | expectedCommaOrBracket => "expected `,` or `]`"
  | keyNotString => "key must be a string"
  | trailingComma => "trailing comma"
  | trailingCharacters => "trailing characters"
  | invalidNumber => "invalid number"
  | numberOutOfRange => "number out of range"
  | invalidEscape => "invalid escape"
  | controlCharacter => "control character (\\u0000-\\u001F) found while parsing a string"
  | loneSurrogate => "lone leading surrogate in hex escape"
  | unfinishedSurrogatePair => "unexpected end of hex escape"
  | invalidUnicode => "invalid unicode code point"
  | tooDeep => "recursion limit exceeded"

structure Misread where
  cause  : Cause
  line   : Nat
  column : Nat
  deriving DecidableEq, Repr

def Misread.message (m : Misread) : String :=
  s!"{m.cause.message} at line {m.line} column {m.column}"

-- A place in a text: the bytes still ahead, the line, and how many bytes of it are behind.
structure Cursor where
  line   : Nat
  column : Nat
  rest   : Bytes

namespace Cursor

def start (bs : Bytes) : Cursor :=
  { line := 1, column := 0, rest := bs }

-- The place behind byte `b`, where `rest` follows it.
def past (c : Cursor) (b : UInt8) (rest : Bytes) : Cursor :=
  if b = 10 then { line := c.line + 1, column := 0, rest }
  else { c with column := c.column + 1, rest }

-- The place one byte on, or the same place at the end.
def advance (c : Cursor) : Cursor :=
  match c.rest with
  | [] => c
  | b :: rest => c.past b rest

-- A fault stands behind the last byte taken, or ahead, at the byte that was only looked at.
def fault (c : Cursor) (cause : Cause) : Misread :=
  { cause, line := c.line, column := c.column }

def faultAhead (c : Cursor) (cause : Cause) : Misread :=
  c.advance.fault cause

-- The place behind any spaces, tabs and line ends.
def skipSpace (c : Cursor) : Cursor :=
  go c c.rest
where
  go (c : Cursor) : Bytes → Cursor
    | b :: rest => if b = 32 || b = 9 || b = 13 || b = 10 then go (c.past b rest) rest else { c with rest := b :: rest }
    | [] => { c with rest := [] }

end Cursor

-- A reader takes something from the text or says why it cannot.
abbrev Reader (α : Type) := Cursor → Except Misread (α × Cursor)

def isDigit (b : UInt8) : Bool :=
  48 ≤ b && b ≤ 57

def digitValue (b : UInt8) : Nat :=
  b.toNat - 48

def readWord (word : Bytes) (v : Json) : Reader Json := fun c =>
  match word with
  | [] => .ok (v, c)
  | w :: word =>
    match c.rest with
    | [] => .error (c.fault .endInValue)
    | b :: rest =>
      if b = w then readWord word v (c.past b rest) else .error ((c.past b rest).fault .expectedIdent)

-- The double nearest to `10 ^ k`, for `k` up to 308.
def pow10 (k : Nat) : Float :=
  Float.ofScientific 1 false k

def scaleDown (f : Float) (k : Nat) : Float :=
  if k ≤ 308 then f / pow10 k
  else if f == 0 then f
  else scaleDown (f / pow10 308) (k - 308)
termination_by k
decreasing_by omega

-- The double for `m · 10 ^ e`: the whole number is rounded first, then scaled.
def scale (m : Nat) (e : Int) : Option Float :=
  let f := m.toUInt64.toFloat
  if 0 ≤ e then
    if e ≤ 308 then
      let f := f * pow10 e.toNat
      if f.isInf then none else some f
    else if f == 0 then some f else none
  else
    some (scaleDown f (-e).toNat)

def signed (negative : Bool) (f : Float) : Json :=
  .float (if negative then -f else f)

-- The number `m · 10 ^ e`, unless no double is large enough.
def finish (negative : Bool) (m : Nat) (e : Int) : Reader Json := fun c =>
  match scale m e with
  | some f => .ok (signed negative f, c)
  | none => .error (c.fault .numberOutOfRange)

-- The place behind any digits, and how many there were.
def skipDigits (c : Cursor) : Nat × Cursor :=
  go c.rest 0
where
  go (rest : Bytes) (n : Nat) : Nat × Cursor :=
    match rest with
    | b :: more => if isDigit b then go more (n + 1) else (n, { c with column := c.column + n, rest })
    | [] => (n, { c with column := c.column + n, rest })

-- The digits of an exponent behind its first. An exponent above `2 ^ 31 - 1` is not read on.
def exponentDigits (negative : Bool) (m : Nat) (e : Int) (below : Bool) (exp : Nat) (c : Cursor) :
    Except Misread (Json × Cursor) :=
  go c.rest exp c
where
  go (rest : Bytes) (exp : Nat) (c : Cursor) : Except Misread (Json × Cursor) :=
    match rest with
    | b :: more =>
      if isDigit b then
        let exp := exp * 10 + digitValue b
        if exp ≤ 0x7FFFFFFF then go more exp (c.past b more)
        -- Zero has no magnitude, and a power so far below leaves nothing of any other number.
        else if m ≠ 0 && !below then .error ((c.past b more).fault .numberOutOfRange)
        else .ok (signed negative 0, (skipDigits (c.past b more)).2)
      else finish negative m (if below then e - exp else e + exp) c
    | [] => finish negative m (if below then e - exp else e + exp) c

-- The exponent of a number, behind its `e`.
def readExponent (negative : Bool) (m : Nat) (e : Int) : Reader Json := fun c =>
  let (below, c) :=
    match c.rest with
    | 43 :: rest => (false, c.past 43 rest)
    | 45 :: rest => (true, c.past 45 rest)
    | _ => (false, c)
  match c.rest with
  | [] => .error (c.fault .endInValue)
  | b :: rest =>
    if isDigit b then exponentDigits negative m e below (digitValue b) (c.past b rest)
    else .error ((c.past b rest).fault .invalidNumber)

-- What may follow the digits of a number that is a double.
def readTail (negative : Bool) (m : Nat) (e : Int) : Reader Json := fun c =>
  match c.rest with
  | 101 :: rest => readExponent negative m e (c.past 101 rest)
  | 69 :: rest => readExponent negative m e (c.past 69 rest)
  | _ => finish negative m e c

-- The digits behind the point. Once another digit would not fit into 64 bits the rest is ignored.
def fractionDigits (negative : Bool) (m : Nat) (e : Int) (c : Cursor) : Except Misread (Json × Cursor) :=
  go c.rest m e c
where
  go (rest : Bytes) (m : Nat) (e : Int) (c : Cursor) : Except Misread (Json × Cursor) :=
    match rest with
    | b :: more =>
      if isDigit b then
        let next := m * 10 + digitValue b
        if next < UInt64.size then go more next (e - 1) (c.past b more)
        else readTail negative m e (skipDigits c).2
      else readTail negative m e c
    | [] => readTail negative m e c

-- The fraction of a number, behind its point: at least one digit.
def readFraction (negative : Bool) (m : Nat) (e : Int) : Reader Json := fun c =>
  match c.rest with
  | [] => .error (c.faultAhead .endInValue)
  | b :: _ =>
    if isDigit b then fractionDigits negative m e c else .error (c.faultAhead .invalidNumber)

-- What follows the whole part of a number: a fraction, an exponent, or nothing.
def readRest (negative : Bool) (m : Nat) : Reader Json := fun c =>
  match c.rest with
  | 46 :: rest => readFraction negative m 0 (c.past 46 rest)
  | 101 :: rest => readExponent negative m 0 (c.past 101 rest)
  | 69 :: rest => readExponent negative m 0 (c.past 69 rest)
  | _ =>
    if !negative then .ok (.int m, c)
    -- Minus zero is a double, and so is what is below every whole number of 64 bits.
    else if m = 0 || !fitsInt64 (-m) then .ok (.float (-(m.toUInt64.toFloat)), c)
    else .ok (.int (-(m : Int)), c)

-- A whole part with more digits than 64 bits hold: the digits left over count as an exponent.
def readLong (negative : Bool) (m : Nat) : Reader Json := fun c =>
  let (extra, c) := skipDigits c
  match c.rest with
  | 46 :: rest => readFraction negative m extra (c.past 46 rest)
  | _ => readTail negative m extra c

-- The digits of a whole part behind its first.
def wholeDigits (negative : Bool) (m : Nat) (c : Cursor) : Except Misread (Json × Cursor) :=
  go c.rest m c
where
  go (rest : Bytes) (m : Nat) (c : Cursor) : Except Misread (Json × Cursor) :=
    match rest with
    | b :: more =>
      if isDigit b then
        let next := m * 10 + digitValue b
        if next < UInt64.size then go more next (c.past b more) else readLong negative m c
      else readRest negative m c
    | [] => readRest negative m c

def readNumber (negative : Bool) : Reader Json := fun c =>
  match c.rest with
  | [] => .error (c.fault .endInValue)
  | 48 :: rest =>
    let c := c.past 48 rest
    match rest with
    | b :: _ => if isDigit b then .error (c.faultAhead .invalidNumber) else readRest negative 0 c
    | [] => readRest negative 0 c
  | b :: rest =>
    if isDigit b then wholeDigits negative (digitValue b) (c.past b rest)
    else .error ((c.past b rest).fault .invalidNumber)

def hexValue? (b : UInt8) : Option Nat :=
  if 48 ≤ b && b ≤ 57 then some (b.toNat - 48)
  else if 97 ≤ b && b ≤ 102 then some (b.toNat - 87)
  else if 65 ≤ b && b ≤ 70 then some (b.toNat - 55)
  else none

-- Four hexadecimal digits. All four are taken before they are looked at.
def readHex4 : Reader Nat := fun c =>
  match c.rest with
  | h₁ :: h₂ :: h₃ :: h₄ :: _ =>
    let after := c.advance.advance.advance.advance
    match hexValue? h₁, hexValue? h₂, hexValue? h₃, hexValue? h₄ with
    | some n₁, some n₂, some n₃, some n₄ => .ok (((n₁ * 16 + n₂) * 16 + n₃) * 16 + n₄, after)
    | _, _, _, _ => .error (after.fault .invalidEscape)
  | _ => .error (c.advance.advance.advance.fault .endInString)

-- The byte `b`, which a pair of surrogates needs next.
def expectInPair (b : UInt8) (c : Cursor) : Except Misread Cursor :=
  match c.rest with
  | [] => .error (c.fault .endInString)
  | b' :: rest =>
    if b' = b then .ok (c.past b' rest) else .error ((c.past b' rest).fault .unfinishedSurrogatePair)

-- A character given by its code, behind `\u`. One outside the basic plane takes two codes.
def readUnicode : Reader Char := fun c => do
  let (n, c) ← readHex4 c
  if 0xDC00 ≤ n && n ≤ 0xDFFF then throw (c.fault .loneSurrogate)
  if n < 0xD800 || 0xDBFF < n then return (Char.ofNat n, c)
  let c ← expectInPair 92 c
  let c ← expectInPair 117 c
  let (low, c) ← readHex4 c
  if low < 0xDC00 || 0xDFFF < low then throw (c.fault .loneSurrogate)
  return (Char.ofNat (0x10000 + (n - 0xD800) * 0x400 + (low - 0xDC00)), c)

-- An escaped character, behind its backslash.
def readEscape : Reader Char := fun c =>
  match c.rest with
  | [] => .error (c.fault .endInString)
  | b :: rest =>
    let c := c.past b rest
    if b = 34 then .ok ('"', c)
    else if b = 92 then .ok ('\\', c)
    else if b = 47 then .ok ('/', c)
    else if b = 98 then .ok ('\x08', c)
    else if b = 102 then .ok ('\x0c', c)
    else if b = 110 then .ok ('\n', c)
    else if b = 114 then .ok ('\r', c)
    else if b = 116 then .ok ('\t', c)
    else if b = 117 then readUnicode c
    else .error (c.fault .invalidEscape)

-- The rest of a string, behind its opening quote. That its bytes are UTF-8 is asked at the closing quote,
-- and answered with the place of the first byte that is not.
def stringBody (fuel : Nat) (chars : List Char) (bad : Option Misread) (c : Cursor) :
    Except Misread (String × Cursor) :=
  match fuel, c.rest with
  | _, [] => .error (c.fault .endInString)
  | 0, _ => .error (c.fault .endInString)
  | fuel + 1, b :: rest =>
    let behind := c.past b rest
    if b = 34 then
      match bad with
      | some m => .error m
      | none => .ok (String.ofList chars.reverse, behind)
    else if b = 92 then
      match readEscape behind with
      | .ok (char, c) => stringBody fuel (char :: chars) bad c
      | .error m => .error m
    else if b < 32 then .error (behind.fault .controlCharacter)
    else
      match Utf8.next b rest with
      | (some char, more) =>
        stringBody fuel (char :: chars) bad { c with column := c.column + char.utf8Size, rest := more }
      | (none, _) => stringBody fuel chars (bad <|> some (behind.fault .invalidUnicode)) behind

def readString : Reader String := fun c =>
  stringBody c.rest.length [] none c

-- The items of an array, behind its bracket, or behind an item unless it is the first.
def readItems (item : Reader Json) (fuel : Nat) (first : Bool) (items : List Json) (c : Cursor) :
    Except Misread (Json × Cursor) :=
  let c := c.skipSpace
  match fuel, c.rest with
  | _, [] => .error (c.faultAhead .endInArray)
  | 0, _ => .error (c.faultAhead .endInArray)
  | fuel + 1, b :: rest =>
    if b = 93 then .ok (.arr items.reverse, c.past b rest)
    else if first then
      match item c with
      | .ok (v, c) => readItems item fuel false (v :: items) c
      | .error m => .error m
    else if b = 44 then
      let c := (c.past b rest).skipSpace
      match c.rest with
      | [] => .error (c.faultAhead .endInValue)
      | b :: _ =>
        if b = 93 then .error (c.faultAhead .trailingComma)
        else
          match item c with
          | .ok (v, c) => readItems item fuel false (v :: items) c
          | .error m => .error m
    else .error (c.faultAhead .expectedCommaOrBracket)

-- A field, at the quote of its name.
def readField (item : Reader Json) : Reader (String × Json) := fun c => do
  let (name, c) ← readString c.advance
  let c := c.skipSpace
  match c.rest with
  | [] => throw (c.faultAhead .endInObject)
  | b :: rest =>
    if b ≠ 58 then throw (c.faultAhead .expectedColon)
    let (v, c) ← item (c.past b rest)
    return ((name, v), c)

-- The fields of an object, behind its brace, or behind a field unless it is the first.
def readFields (item : Reader Json) (fuel : Nat) (first : Bool) (fields : List (String × Json)) (c : Cursor) :
    Except Misread (Json × Cursor) :=
  let c := c.skipSpace
  match fuel, c.rest with
  | _, [] => .error (c.faultAhead .endInObject)
  | 0, _ => .error (c.faultAhead .endInObject)
  | fuel + 1, b :: rest =>
    if b = 125 then .ok (.obj fields, c.past b rest)
    else if first then
      if b ≠ 34 then .error (c.faultAhead .keyNotString)
      else
        match readField item c with
        | .ok ((name, v), c) => readFields item fuel false (insertField name v fields) c
        | .error m => .error m
    else if b = 44 then
      let c := (c.past b rest).skipSpace
      match c.rest with
      | [] => .error (c.faultAhead .endInValue)
      | b :: _ =>
        if b = 125 then .error (c.faultAhead .trailingComma)
        else if b ≠ 34 then .error (c.faultAhead .keyNotString)
        else
          match readField item c with
          | .ok ((name, v), c) => readFields item fuel false (insertField name v fields) c
          | .error m => .error m
    else .error (c.faultAhead .expectedCommaOrBrace)

-- A value inside which arrays and objects nest less than `depth` deep.
def readValue (depth : Nat) : Reader Json := fun c =>
  let c := c.skipSpace
  match c.rest with
  | [] => .error (c.faultAhead .endInValue)
  | b :: rest =>
    let behind := c.past b rest
    if b = 110 then readWord [117, 108, 108] .null behind
    else if b = 116 then readWord [114, 117, 101] (.bool true) behind
    else if b = 102 then readWord [97, 108, 115, 101] (.bool false) behind
    else if b = 45 then readNumber true behind
    else if isDigit b then readNumber false c
    else if b = 34 then
      match readString behind with
      | .ok (s, c) => .ok (.str s, c)
      | .error m => .error m
    else if b = 91 || b = 123 then
      match depth with
      | 0 => .error (c.faultAhead .tooDeep)
      | depth + 1 =>
        if b = 91 then readItems (readValue depth) (rest.length + 1) true [] behind
        else readFields (readValue depth) (rest.length + 1) true [] behind
    else .error (c.faultAhead .expectedValue)

def depthLimit : Nat := 127

-- The value that a text holds, with nothing but white space around it.
def read (bs : Bytes) : Except Misread Json := do
  let (v, c) ← readValue depthLimit (.start bs)
  let c := c.skipSpace
  match c.rest with
  | [] => return v
  | _ :: _ => throw (c.faultAhead .trailingCharacters)

end Sluice.Json
