import Sluice.Yaml.Scalar

namespace Sluice.Yaml

inductive Token where
  | versionDirective (major minor : Nat)
  | tagDirective (handle stem : String)
  | documentStart
  | documentEnd
  | blockSequenceStart
  | blockMappingStart
  | blockEnd
  | flowSequenceStart
  | flowSequenceEnd
  | flowMappingStart
  | flowMappingEnd
  | flowEntry
  | blockEntry
  | key
  | value
  | alias (name : String)
  | anchor (name : String)
  | tag (handle suffix : String)
  | scalar (style : Style) (text : String)
  deriving DecidableEq, Repr

-- Something that will have been a key if a `:` follows. A required one must be followed by it.
structure PossibleKey where
  required : Bool
  -- How many tokens come before it.
  position : Nat
  index    : Nat
  line     : Nat
  column   : Nat

structure Scanner where
  cursor  : Cursor
  tokens  : Array Token := #[]
  indent  : Int := -1
  -- The indentations of the blocks around, innermost first.
  outer   : List Int := []
  -- The possible key of each flow collection that is open, innermost first.
  flow    : List (Option PossibleKey) := []
  -- The possible key of the block around them.
  block   : Option PossibleKey := none
  keyAllowed : Bool := true

namespace Scanner

def inFlow (s : Scanner) : Bool := !s.flow.isEmpty

def rest (s : Scanner) : List Char := s.cursor.rest

def column (s : Scanner) : Int := s.cursor.column

def emit (s : Scanner) (t : Token) : Scanner :=
  { s with tokens := s.tokens.push t }

-- Emits a token for so many characters.
def emitSkip (s : Scanner) (n : Nat) (t : Token) : Scanner :=
  { s.emit t with cursor := s.cursor.skipN n }

def allowKey (s : Scanner) (allowed : Bool) : Scanner :=
  { s with keyAllowed := allowed }

-- The possible key at the innermost level.
def possibleKey (s : Scanner) : Option PossibleKey :=
  match s.flow with
  | key :: _ => key
  | [] => s.block

def setKey (s : Scanner) (key : Option PossibleKey) : Scanner :=
  match s.flow with
  | _ :: outer => { s with flow := key :: outer }
  | [] => { s with block := key }

-- Gives the innermost possible key up.
def dropKey? (s : Scanner) : Option Scanner :=
  match s.possibleKey with
  | some key => if key.required then none else some (s.setKey none)
  | none => some s

-- Remembers that what comes next may be a key.
def saveKey? (s : Scanner) : Option Scanner :=
  if s.keyAllowed then
    s.dropKey?.map fun s => s.setKey (some
      { required := !s.inFlow && s.indent = s.column
        position := s.tokens.size
        index := s.cursor.index
        line := s.cursor.line
        column := s.cursor.column })
  else some s

-- A key stands on one line and has at most 1024 characters.
def isStale (s : Scanner) (key : PossibleKey) : Bool :=
  key.line < s.cursor.line || key.index + 1024 < s.cursor.index

-- A possible key, unless it can be none any more; `none` where it would have had to be one.
def refresh? (s : Scanner) (key : Option PossibleKey) : Option (Option PossibleKey) :=
  match key with
  | some k => if s.isStale k then (if k.required then none else some none) else some key
  | none => some none

-- Forgets the possible keys that can be none any more.
def dropStale? (s : Scanner) : Option Scanner := do
  let block ← s.refresh? s.block
  let flow ← s.flow.mapM s.refresh?
  return { s with block, flow }

-- Closes the blocks that are indented deeper than `column`.
def unroll (s : Scanner) (column : Int) : Scanner :=
  if s.inFlow then s else go s s.outer
where
  go (s : Scanner) : List Int → Scanner
    | [] => s
    | i :: outer =>
      if column < s.indent then go { s.emit .blockEnd with indent := i, outer } outer else s

-- Opens a block at `column`, unless one is open there; its token goes to `position`.
def roll (s : Scanner) (column : Int) (position : Nat) (t : Token) : Scanner :=
  if !s.inFlow && s.indent < column then
    { s with
      outer := s.indent :: s.outer
      indent := column
      tokens := s.tokens.insertIdxIfInBounds position t }
  else s

-- Behind white space, comments and line breaks. In a block a tab may not stand where a key may.
def toNextToken (fuel : Nat) (s : Scanner) : Scanner :=
  match fuel with
  | 0 => s
  | fuel + 1 =>
    -- A byte order mark counts for nothing at the start of the text only.
    let c := if s.cursor.index = 0 && atChar '\ufeff' s.rest then s.cursor.skip else s.cursor
    let c := c.skipWhile fun ch => ch = ' ' || ((s.inFlow || !s.keyAllowed) && ch = '\t')
    let c := if atChar '#' c.rest then c.skipWhile (!isBreak ·) else c
    match c.rest with
    | ch :: _ =>
      if isBreak ch then
        toNextToken fuel { s with cursor := c.skipLine, keyAllowed := s.keyAllowed || !s.inFlow }
      else { s with cursor := c }
    | [] => { s with cursor := c }

-- A version number: at most nine digits.
def versionNumber? (c : Cursor) : Option (Nat × Cursor) :=
  let (ds, c) := c.takeWhile Char.isDigit
  if 9 < ds.length then none else (natural? 10 ds).map (·, c)

-- A tag handle: `!`, `!word!` or `!!`, or `!word`, which is only the start of a tag.
def tagHandle? (c : Cursor) : Option (List Char × Cursor) :=
  if atChar '!' c.rest then
    let (word, c) := c.skip.takeWhile isWordChar
    if atChar '!' c.rest then some ('!' :: word ++ ['!'], c.skip) else some ('!' :: word, c)
  else none

-- How many bytes a character takes whose first byte is `b`.
def utf8Width? (b : Nat) : Option Nat :=
  if b < 0x80 then some 1
  else if 0xC0 ≤ b && b < 0xE0 then some 2
  else if 0xE0 ≤ b && b < 0xF0 then some 3
  else if 0xF0 ≤ b && b < 0xF8 then some 4
  else none

-- The byte of an escape such as `%41`.
def escapedByte? (c : Cursor) : Option (Nat × Cursor) :=
  match c.rest with
  | '%' :: digits => (hexNumber? 2 digits).map fun n => (n, c.skipN 3)
  | _ => none

-- The bytes that follow the first byte of an escaped character.
def escapedTail? (c : Cursor) : Nat → Option (List UInt8 × Cursor)
  | 0 => some ([], c)
  | n + 1 => do
    let (b, c) ← escapedByte? c
    if !(0x80 ≤ b && b < 0xC0) then none
    let (bs, c) ← escapedTail? c n
    return (b.toUInt8 :: bs, c)

-- An escaped character.
def escapedChar? (c : Cursor) : Option (List Char × Cursor) := do
  let (b, c) ← escapedByte? c
  let width ← utf8Width? b
  let (bs, c) ← escapedTail? c (width - 1)
  return (Utf8.decodeLossy (b.toUInt8 :: bs), c)

-- The characters of a tag. Between angle brackets flow indicators belong to them too.
def isTagChar (verbatim : Bool) (c : Char) : Bool :=
  isWordChar c || ";/?:@&=+$.%!~*'()".toList.contains c || (verbatim && ",[]".toList.contains c)

-- The rest of a tag.
def tagSuffix? (verbatim : Bool) (fuel : Nat) (acc : List Char) (c : Cursor) : Option (List Char × Cursor) :=
  match fuel, c.rest with
  | fuel + 1, ch :: _ =>
    if !isTagChar verbatim ch then some (acc, c)
    else if ch = '%' then
      match escapedChar? c with
      | some (chars, c) => tagSuffix? verbatim fuel (acc ++ chars) c
      | none => none
    else tagSuffix? verbatim fuel (acc ++ [ch]) c.skip
  | _, _ => some (acc, c)

-- The rest of a tag, which must not be empty together with what has been read of it.
def tagUri? (verbatim : Bool) (head : List Char) (c : Cursor) : Option (List Char × Cursor) := do
  let (suffix, c') ← tagSuffix? verbatim c.rest.length [] c
  if head.isEmpty && c'.index = c.index then none
  return (head.drop 1 ++ suffix, c')

-- A directive, behind its `%`.
def directive? (c : Cursor) : Option (Token × Cursor) := do
  let (name, c) ← pure (c.takeWhile isWordChar)
  if name.isEmpty || !atGap c.rest then none
  if name = "YAML".toList then
    let (major, c) ← versionNumber? (c.skipWhile isBlank)
    if !atChar '.' c.rest then none
    let (minor, c) ← versionNumber? c.skip
    return (.versionDirective major minor, ← c.finishLine?)
  else if name = "TAG".toList then
    let (handle, c) ← tagHandle? (c.skipWhile isBlank)
    if handle ≠ ['!'] && handle.getLast? ≠ some '!' then none
    if !(c.rest.head?.any isBlank) then none
    let (stem, c) ← tagUri? true [] (c.skipWhile isBlank)
    if !atGap c.rest then none
    return (.tagDirective (String.ofList handle) (String.ofList stem), ← c.finishLine?)
  else none

-- A tag, at its `!`.
def tag? (inFlow : Bool) (c : Cursor) : Option (Token × Cursor) := do
  let (handle, suffix, c) ←
    match c.rest with
    | '!' :: '<' :: _ => do
      let (suffix, c) ← tagUri? true [] (c.skipN 2)
      if !atChar '>' c.rest then none
      pure ([], suffix, c.skip)
    | _ => do
      let (handle, c) ← tagHandle? c
      if 1 < handle.length && handle.getLast? = some '!' then
        let (suffix, c) ← tagUri? false [] c
        pure (handle, suffix, c)
      else
        let (suffix, c) ← tagUri? false handle c
        if suffix.isEmpty then pure ([], ['!'], c) else pure (['!'], suffix, c)
  -- In a flow collection a comma may follow a tag directly.
  if !(inFlow && atChar ',' c.rest) && !atGap c.rest then none
  return (.tag (String.ofList handle) (String.ofList suffix), c)

-- The name of an anchor or alias, behind its indicator.
def anchorName? (c : Cursor) : Option (String × Cursor) :=
  let (name, c) := c.takeWhile isWordChar
  let ends :=
    match c.rest with
    | ch :: _ => atGap c.rest || "?:,]\x7d%@\x60".toList.contains ch
    | [] => true
  if name.isEmpty || !ends then none else some (String.ofList name, c)

-- A directive or document mark: every block ends before it.
def atMargin? (s : Scanner) : Option Scanner :=
  (s.unroll (-1)).dropKey?.map (·.allowKey false)

-- The opening of a flow collection, which may itself be a key.
def openFlow? (s : Scanner) (t : Token) : Option Scanner :=
  s.saveKey?.map fun s => ({ s with flow := none :: s.flow }.allowKey true).emitSkip 1 t

-- The end of a flow collection.
def closeFlow? (s : Scanner) (t : Token) : Option Scanner :=
  s.dropKey?.map fun s => ({ s with flow := s.flow.drop 1 }.allowKey false).emitSkip 1 t

-- A `-` that starts an entry.
def blockEntry? (s : Scanner) : Option Scanner := do
  if !s.inFlow && !s.keyAllowed then none
  let s ← (s.roll s.column s.tokens.size .blockSequenceStart).dropKey?
  return (s.allowKey true).emitSkip 1 .blockEntry

-- A `?` that starts a key.
def explicitKey? (s : Scanner) : Option Scanner := do
  if !s.inFlow && !s.keyAllowed then none
  let s ← (s.roll s.column s.tokens.size .blockMappingStart).dropKey?
  return (s.allowKey !s.inFlow).emitSkip 1 .key

-- A `:` that starts a value. What stands before it may now turn out to have been a key.
def value? (s : Scanner) : Option Scanner :=
  match s.possibleKey with
  | some key =>
    -- The key's token goes before the item, and the token that opens its mapping before that.
    let s := { s with tokens := s.tokens.insertIdxIfInBounds key.position .key }
    let s := (s.roll key.column key.position .blockMappingStart).setKey none
    some ((s.allowKey false).emitSkip 1 .value)
  | none => do
    if !s.inFlow && !s.keyAllowed then none
    let s := s.roll s.column s.tokens.size .blockMappingStart
    return (s.allowKey !s.inFlow).emitSkip 1 .value

-- Something that may be a key: an anchor, a tag or a scalar on one line.
def item? (s : Scanner) (read : Cursor → Option (Token × Cursor)) : Option Scanner := do
  let s ← s.saveKey?
  let (t, cursor) ← read s.cursor
  return { (s.allowKey false).emit t with cursor }

def blockScalar? (s : Scanner) (style : Style) : Option Scanner := do
  let s ← s.dropKey?
  let (text, cursor) ← blockScalar style s.indent s.cursor.skip
  return { (s.allowKey true).emit (.scalar style (String.ofList text)) with cursor }

-- Whether a plain scalar may start so.
def startsPlain (inFlow : Bool) (rest : List Char) : Bool :=
  match rest with
  | [] => false
  | c :: more =>
    (!isBlank c && !isBreak c && !"-?:,[]\x7b\x7d#&*!|>'\"%@\x60".toList.contains c) ||
      (c = '-' && !(more.head?.any isBlank)) ||
      (!inFlow && (c = '?' || c = ':') && !atGap more)

def plain? (s : Scanner) : Option Scanner := do
  let s ← s.saveKey?
  let (text, broken, cursor) ← plainScalar s.inFlow (s.indent + 1) (s.rest.length + 1) [] {} s.cursor
  return { s.emit (.scalar .plain (String.ofList text)) with cursor, keyAllowed := broken }

-- The token that comes next, where there is one.
def token? (s : Scanner) : Option Scanner :=
  match s.rest with
  | [] => some s
  | c :: more =>
    if s.column = 0 && c = '%' then
      s.atMargin?.bind fun s =>
        (directive? s.cursor.skip).map fun (t, cursor) => { s.emit t with cursor }
    else if s.column = 0 && atDocumentMark s.rest then
      s.atMargin?.map (·.emitSkip 3 (if c = '-' then .documentStart else .documentEnd))
    else if c = '[' then s.openFlow? .flowSequenceStart
    else if c = '\x7b' then s.openFlow? .flowMappingStart
    else if c = ']' then s.closeFlow? .flowSequenceEnd
    else if c = '\x7d' then s.closeFlow? .flowMappingEnd
    else if c = ',' then s.dropKey?.map fun s => (s.allowKey true).emitSkip 1 .flowEntry
    else if c = '-' && atGap more then s.blockEntry?
    else if c = '?' && (s.inFlow || atGap more) then s.explicitKey?
    else if c = ':' && (s.inFlow || atGap more) then s.value?
    else if c = '*' then s.item? fun c => (anchorName? c.skip).map fun (name, c) => (.alias name, c)
    else if c = '&' then s.item? fun c => (anchorName? c.skip).map fun (name, c) => (.anchor name, c)
    else if c = '!' then s.item? (tag? s.inFlow)
    else if c = '|' && !s.inFlow then s.blockScalar? .literal
    else if c = '>' && !s.inFlow then s.blockScalar? .folded
    else if c = '\'' then
      s.item? fun c => (singleQuoted c.rest.length [] c.skip).map fun (text, c) =>
        (.scalar .singleQuoted (String.ofList text), c)
    else if c = '"' then
      s.item? fun c => (doubleQuoted c.rest.length [] c.skip).map fun (text, c) =>
        (.scalar .doubleQuoted (String.ofList text), c)
    else if startsPlain s.inFlow s.rest then s.plain?
    else none

-- The end of the text, which ends the line and every block.
def finish? (s : Scanner) : Option (Array Token) :=
  (s.unroll (-1)).dropKey?.map (·.tokens)

-- Reads tokens up to the end of the text.
def run (fuel : Nat) (s : Scanner) : Option (Array Token) :=
  match fuel with
  | 0 => none
  | fuel + 1 => do
    let s := toNextToken (s.rest.length + 1) s
    -- Keys go stale before blocks are closed, as a key may belong to a block that ends here.
    let s ← s.dropStale?
    let s := s.unroll s.column
    if s.rest.isEmpty then s.finish?
    else run fuel (← s.token?)

end Scanner

-- The tokens of a text.
def Token.scan (cs : List Char) : Option (List Token) :=
  if cs.all isAllowed then
    (Scanner.run (cs.length + 2) { cursor := .start cs }).map Array.toList
  else none

end Sluice.Yaml
