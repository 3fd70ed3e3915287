import Sluice.Text.Basic
import Sluice.Text.Utf8
import Sluice.Yaml.Cursor

namespace Sluice.Yaml

inductive Style where
  | plain
  | singleQuoted
  | doubleQuoted
  | literal
  | folded
  deriving DecidableEq, Repr

-- White space that has been passed and not yet written: blanks on one line, or the breaks of several,
-- the first of them apart.
structure Gap where
  blanks   : List Char := []
  first    : List Char := []
  trailing : List Char := []
  broken   : Bool := false

namespace Gap

-- What a gap comes to in the text.
def text (g : Gap) : List Char :=
  if g.broken then
    if g.first.head? = some '\n' then
      if g.trailing.isEmpty then [' '] else g.trailing
    else g.first ++ g.trailing
  else g.blanks

def addBreak (g : Gap) (b : List Char) : Gap :=
  if g.broken then { g with trailing := g.trailing ++ b }
  else { blanks := [], first := b, trailing := [], broken := true }

end Gap

-- Whether a plain scalar ends here; `none` where it may not go on and may not end.
def plainEnds? (inFlow : Bool) (rest : List Char) : Option Bool :=
  match rest with
  | ':' :: more =>
    if inFlow && (match more with | c :: _ => ",?[]\x7b\x7d".toList.contains c | [] => false) then none
    else some (atGap more)
  | c :: _ => some (atGap rest || (inFlow && ",[]\x7b\x7d".toList.contains c))
  | [] => some true

-- The blanks and breaks behind a piece of a plain scalar. A tab may not stand where indentation should.
def plainGap (indent : Int) (fuel : Nat) (g : Gap) (c : Cursor) : Option (Gap × Cursor) :=
  match fuel, c.rest with
  | fuel + 1, ch :: _ =>
    if isBlank ch then
      -- Before the text of a line only spaces indent it.
      if g.broken && c.column < indent && ch = '\t' then none
      else plainGap indent fuel (if g.broken then g else { g with blanks := g.blanks ++ [ch] }) c.skip
    else if isBreak ch then plainGap indent fuel (g.addBreak c.lineBreak) c.skipLine
    else some (g, c)
  | _, _ => some (g, c)

-- The characters of a plain scalar up to the next gap or its end.
def plainPiece (inFlow : Bool) (fuel : Nat) (acc : List Char) (c : Cursor) : Option (List Char × Cursor) :=
  match fuel, c.rest with
  | fuel + 1, ch :: _ =>
    match plainEnds? inFlow c.rest with
    | none => none
    | some true => some (acc, c)
    | some false => plainPiece inFlow fuel (ch :: acc) c.skip
  | _, _ => some (acc, c)

-- A plain scalar with the text `acc`, reversed, and the gap `g` before the cursor. Also tells whether
-- its end was found on a later line than its last character.
def plainScalar (inFlow : Bool) (indent : Int) (fuel : Nat) (acc : List Char) (g : Gap) (c : Cursor) :
    Option (List Char × Bool × Cursor) :=
  let done := some (acc.reverse, g.broken, c)
  match fuel with
  | 0 => done
  | fuel + 1 =>
    if (c.column = 0 && atDocumentMark c.rest) || atChar '#' c.rest then done
    else
      match plainPiece inFlow c.rest.length [] c with
      | none => none
      | some ([], _) => done
      | some (piece, c) =>
        let acc := piece ++ g.text.reverse ++ acc
        if atGap c.rest && !c.rest.isEmpty then
          match plainGap indent c.rest.length {} c with
          | none => none
          | some (g, c) =>
            if !inFlow && c.column < indent then some (acc.reverse, g.broken, c)
            else plainScalar inFlow indent fuel acc g c
        else some (acc.reverse, false, c)

-- What an escaped character stands for, and how many hexadecimal digits it takes first.
def escape? (c : Char) : Option (Char ⊕ Nat) :=
  match c with
  | '0' => some (.inl '\x00')
  | 'a' => some (.inl '\x07')
  | 'b' => some (.inl '\x08')
  | 't' => some (.inl '\t')
  | '\t' => some (.inl '\t')
  | 'n' => some (.inl '\n')
  | 'v' => some (.inl '\x0b')
  | 'f' => some (.inl '\x0c')
  | 'r' => some (.inl '\r')
  | 'e' => some (.inl '\x1b')
  | ' ' => some (.inl ' ')
  | '"' => some (.inl '"')
  | '/' => some (.inl '/')
  | '\\' => some (.inl '\\')
  | 'N' => some (.inl '\u0085')
  | '_' => some (.inl '\u00a0')
  | 'L' => some (.inl '\u2028')
  | 'P' => some (.inl '\u2029')
  | 'x' => some (.inr 2)
  | 'u' => some (.inr 4)
  | 'U' => some (.inr 8)
  | _ => none

-- The number that so many hexadecimal digits make.
def hexNumber? (n : Nat) (cs : List Char) : Option Nat :=
  if cs.length < n then none else natural? 16 (cs.take n)

-- The blanks and breaks inside a quoted scalar.
def quotedGap (fuel : Nat) (g : Gap) (c : Cursor) : Gap × Cursor :=
  match fuel, c.rest with
  | fuel + 1, ch :: _ =>
    if isBlank ch then quotedGap fuel (if g.broken then g else { g with blanks := g.blanks ++ [ch] }) c.skip
    else if isBreak ch then quotedGap fuel (g.addBreak c.lineBreak) c.skipLine
    else (g, c)
  | _, _ => (g, c)

-- The rest of a scalar between single quotes, behind the first.
def singleQuoted (fuel : Nat) (acc : List Char) (c : Cursor) : Option (List Char × Cursor) :=
  if c.column = 0 && atDocumentMark c.rest then none
  else
    match fuel, c.rest with
    | fuel + 1, ch :: more =>
      if ch = '\'' then
        if atChar '\'' more then singleQuoted fuel ('\'' :: acc) (c.skipN 2)
        else some (acc.reverse, c.skip)
      else if isBlank ch || isBreak ch then
        let (g, c) := quotedGap c.rest.length {} c
        singleQuoted fuel (g.text.reverse ++ acc) c
      else singleQuoted fuel (ch :: acc) c.skip
    | _, _ => none

-- The rest of a scalar between double quotes, behind the first.
def doubleQuoted (fuel : Nat) (acc : List Char) (c : Cursor) : Option (List Char × Cursor) :=
  if c.column = 0 && atDocumentMark c.rest then none
  else
    match fuel, c.rest with
    | fuel + 1, ch :: more =>
      if ch = '"' then some (acc.reverse, c.skip)
      else if ch = '\\' then
        match more with
        | [] => none
        | e :: digits =>
          if isBreak e then
            let (g, c) := quotedGap more.length { broken := true } c.skip.skipLine
            doubleQuoted fuel ((g.first ++ g.trailing).reverse ++ acc) c
          else
            match escape? e with
            | none => none
            | some (.inl ch) => doubleQuoted fuel (ch :: acc) (c.skipN 2)
            | some (.inr n) =>
              match hexNumber? n digits with
              | none => none
              | some code =>
                -- Surrogates, and what is beyond the last plane, are no characters.
                if (0xD800 ≤ code && code ≤ 0xDFFF) || 0x10FFFF < code then none
                else doubleQuoted fuel (Char.ofNat code :: acc) (c.skipN (2 + n))
      else if isBlank ch || isBreak ch then
        let (g, c) := quotedGap c.rest.length {} c
        doubleQuoted fuel (g.text.reverse ++ acc) c
      else doubleQuoted fuel (ch :: acc) c.skip
    | _, _ => none

-- What becomes of the breaks at the end of a block scalar.
inductive Chomp where
  | clip
  | strip
  | keep
  deriving DecidableEq

def chomp? (c : Char) : Option Chomp :=
  if c = '+' then some .keep else if c = '-' then some .strip else none

-- The indicators behind `|` or `>`, in either order.
def blockHeader (c : Cursor) : Option (Chomp × Nat × Cursor) :=
  let first := c.rest.head?
  match first.bind chomp? with
  | some chomp =>
    let c := c.skip
    match c.rest.head?.bind (digit? 10) with
    | some 0 => none
    | some n => some (chomp, n, c.skip)
    | none => some (chomp, 0, c)
  | none =>
    match first.bind (digit? 10) with
    | some 0 => none
    | some n =>
      let c := c.skip
      match c.rest.head?.bind chomp? with
      | some chomp => some (chomp, n, c.skip)
      | none => some (.clip, n, c)
    | none => some (.clip, 0, c)

-- The empty lines before a line of a block scalar. Zero as indentation means that it is not known yet;
-- then the widest of these lines counts.
def blockBreaks (indent : Nat) (fuel widest : Nat) (acc : List Char) (c : Cursor) :
    Option (List Char × Nat × Cursor) :=
  let c := c.skipN (((c.rest.takeWhile (· = ' ')).length).min
    (if indent = 0 then c.rest.length else indent - c.column))
  let widest := max widest c.column
  if (indent = 0 || c.column < indent) && atChar '\t' c.rest then none
  else
    match fuel, c.rest with
    | fuel + 1, ch :: _ =>
      if isBreak ch then blockBreaks indent fuel widest (acc ++ c.lineBreak) c.skipLine
      else some (acc, widest, c)
    | _, _ => some (acc, widest, c)

-- The lines of a block scalar. `first` is the break behind the line before, `trailing` are the breaks
-- of the empty lines after that.
def blockLines (style : Style) (chomp : Chomp) (indent : Nat) (fuel : Nat) (acc first trailing : List Char)
    (afterBlank : Bool) (c : Cursor) : Option (List Char × Cursor) :=
  match fuel, c.rest with
  | fuel + 1, ch :: _ =>
    if c.column ≠ indent then some (finish, c)
    else
      let blank := isBlank ch
      -- A break between two lines of text is a space, unless one of them starts with a blank.
      let acc :=
        if style = .folded && first.head? = some '\n' && !afterBlank && !blank then
          (if trailing.isEmpty then acc ++ [' '] else acc)
        else acc ++ first
      let (line, c) := c.takeWhile (!isBreak ·)
      let first := c.lineBreak
      let c := c.skipLine
      match blockBreaks indent c.rest.length 0 [] c with
      | none => none
      | some (breaks, _, c) => blockLines style chomp indent fuel (acc ++ trailing ++ line) first breaks blank c
  | _, _ => some (finish, c)
where
  -- The text with as many breaks at its end as the header asks for.
  finish : List Char :=
    match chomp with
    | .strip => acc
    | .clip => acc ++ first
    | .keep => acc ++ first ++ trailing

-- A block scalar, behind its `|` or `>`, inside a block of indentation `outer`.
def blockScalar (style : Style) (outer : Int) (c : Cursor) : Option (List Char × Cursor) := do
  let (chomp, increment, c) ← blockHeader c
  let c ← c.finishLine?
  let given := if increment = 0 then 0 else if 0 ≤ outer then outer.toNat + increment else increment
  let (breaks, widest, c) ← blockBreaks given c.rest.length 0 [] c
  let indent := if given = 0 then max (max widest (outer + 1).toNat) 1 else given
  blockLines style chomp indent (c.rest.length + 1) [] [] breaks false c

end Sluice.Yaml
