import Sluice.Text.Utf8

namespace Sluice.Yaml

-- The units of UTF-16, from pairs of bytes.
def units? (big : Bool) : Bytes → Option (List Nat)
  | [] => some []
  | [_] => none
  | a :: b :: rest =>
    (units? big rest).map ((if big then a.toNat * 256 + b.toNat else b.toNat * 256 + a.toNat) :: ·)

def isHighSurrogate (u : Nat) : Bool := 0xD800 ≤ u && u < 0xDC00

def isLowSurrogate (u : Nat) : Bool := 0xDC00 ≤ u && u < 0xE000

-- The characters of UTF-16 units; every surrogate must have its partner.
def ofUnits? : List Nat → Option (List Char)
  | [] => some []
  | [u] => if isHighSurrogate u || isLowSurrogate u then none else some [Char.ofNat u]
  | u :: v :: rest =>
    if isHighSurrogate u then
      if isLowSurrogate v then
        (ofUnits? rest).map (Char.ofNat (0x10000 + (u - 0xD800) * 0x400 + (v - 0xDC00)) :: ·)
      else none
    else if isLowSurrogate u then none
    else (ofUnits? (v :: rest)).map (Char.ofNat u :: ·)

def decode? (bytes : Bytes) : Option (List Char) :=
  match bytes with
  | 0xEF :: 0xBB :: 0xBF :: rest => Utf8.decode? rest
  | 0xFF :: 0xFE :: rest => (units? false rest).bind ofUnits?
  | 0xFE :: 0xFF :: rest => (units? true rest).bind ofUnits?
  | _ => Utf8.decode? bytes

-- The characters that a text may hold at all.
def isAllowed (c : Char) : Bool :=
  let n := c.toNat
  n = 0x09 || n = 0x0A || n = 0x0D || (0x20 ≤ n && n ≤ 0x7E) || n = 0x85 || (0xA0 ≤ n && n ≤ 0xD7FF) ||
    (0xE000 ≤ n && n ≤ 0xFFFD) || 0x10000 ≤ n

def isBlank (c : Char) : Bool :=
  c = ' ' || c = '\t'

def isBreak (c : Char) : Bool :=
  let n := c.toNat
  n = 0x0A || n = 0x0D || n = 0x85 || n = 0x2028 || n = 0x2029

-- The characters of names: handles, anchors, directives.
def isWordChar (c : Char) : Bool :=
  c.isAlphanum || c = '_' || c = '-'

-- Whether a blank, a line break or the end comes next.
def atGap : List Char → Bool
  | [] => true
  | c :: _ => isBlank c || isBreak c

-- Whether a line break or the end comes next.
def atLineEnd : List Char → Bool
  | [] => true
  | c :: _ => isBreak c

-- Whether `---` or `...` comes next, with a gap behind it.
def atDocumentMark : List Char → Bool
  | '-' :: '-' :: '-' :: rest => atGap rest
  | '.' :: '.' :: '.' :: rest => atGap rest
  | _ => false

-- Whether that character comes next.
def atChar (c : Char) (rest : List Char) : Bool :=
  rest.head? = some c

-- A place in a text: what is ahead, how many characters are behind, and the line and column.
structure Cursor where
  rest   : List Char
  index  : Nat
  line   : Nat
  column : Nat

namespace Cursor

def start (cs : List Char) : Cursor :=
  { rest := cs, index := 0, line := 0, column := 0 }

-- One character on, within the line.
def skip (c : Cursor) : Cursor :=
  match c.rest with
  | [] => c
  | _ :: rest => { c with rest, index := c.index + 1, column := c.column + 1 }

-- So many characters on, within the line.
def skipN (c : Cursor) : Nat → Cursor
  | 0 => c
  | n + 1 => c.skip.skipN n

-- Behind the line break that comes next. A carriage return and a line feed make one break.
def skipLine (c : Cursor) : Cursor :=
  match c.rest with
  | '\r' :: '\n' :: rest => { rest, index := c.index + 2, line := c.line + 1, column := 0 }
  | b :: rest => if isBreak b then { rest, index := c.index + 1, line := c.line + 1, column := 0 } else c
  | [] => c

-- The line break that comes next, as it counts in a text: all breaks are line feeds, but for the line
-- and paragraph separators.
def lineBreak (c : Cursor) : List Char :=
  match c.rest with
  | [] => []
  | b :: _ =>
    if b = '\u2028' || b = '\u2029' then [b]
    else if isBreak b then ['\n']
    else []

-- The characters that satisfy `p`, and the place behind them.
def takeWhile (p : Char → Bool) (c : Cursor) : List Char × Cursor :=
  let taken := c.rest.takeWhile p
  (taken, c.skipN taken.length)

-- Behind the characters that satisfy `p`.
def skipWhile (p : Char → Bool) (c : Cursor) : Cursor :=
  (c.takeWhile p).2

-- Behind blanks and a comment, if the line then ends; and behind its end.
def finishLine? (c : Cursor) : Option Cursor :=
  let c := c.skipWhile isBlank
  let c := if atChar '#' c.rest then c.skipWhile (!isBreak ·) else c
  if atLineEnd c.rest then some c.skipLine else none

end Cursor

end Sluice.Yaml
