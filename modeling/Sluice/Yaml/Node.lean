import Sluice.Yaml.Token

namespace Sluice.Yaml

-- An alias stays a leaf that names its anchor, and the document keeps the anchored nodes beside the tree, so a
-- node may even refer to one that it lies in.
inductive Node where
  | scalar (tag : Option String) (style : Style) (text : String)
  | sequence (tag : Option String) (items : List Node)
  | mapping (tag : Option String) (entries : List (Node × Node))
  -- Refers to the anchor of that number.
  | alias (number : Nat)
  deriving Inhabited

namespace Node

-- What stands where a value is missing.
def missing : Node :=
  .scalar none .plain ""

end Node

-- A node that carries an anchor. Of two with one number the one that starts later counts.
structure Anchored where
  number : Nat
  order  : Nat
  node   : Node

structure Document where
  -- The tree; `none` if the text holds no document at all.
  root    : Option Node
  anchors : List Anchored

namespace Document

-- The node that an alias refers to.
def resolve? (d : Document) (number : Nat) : Option Node :=
  ((d.anchors.filter (·.number = number)).foldl (fun best a =>
    match best with
    | some b => if b.order < a.order then some a else some b
    | none => some a) none).map (·.node)

end Document

-- What the descent carries along: the tokens ahead, the names of anchors with their numbers, and the
-- anchored nodes that are complete.
structure Descent where
  tokens   : List Token
  handles  : List (String × String) := []
  names    : List (String × Nat) := []
  -- How many anchors have been met.
  met      : Nat := 0
  anchored : List Anchored := []

-- A part of the descent; `none` where the tokens make no document.
abbrev Descend := StateT Descent Option

namespace Descend

def peek : Descend (Option Token) := do
  return (← get).tokens.head?

def skip : Descend Unit :=
  modify fun s => { s with tokens := s.tokens.drop 1 }

-- Passes over the token `t` if it comes next.
def accept (t : Token) : Descend Bool := do
  if (← peek) = some t then
    skip
    return true
  else return false

def refuse {α : Type} : Descend α := fun _ => none

-- Whether one of these tokens, or nothing, comes next.
def isNext (ts : List Token) : Descend Bool := do
  match ← peek with
  | some t => return ts.contains t
  | none => return false

-- Numbers a new anchor: with how many names there are before it, so that a name that is used again gets
-- a number of its own.
def enter (name : String) : Descend (Nat × Nat) := do
  let s ← get
  let number := s.names.length
  set { s with names := (name, number) :: s.names.filter (·.1 ≠ name), met := s.met + 1 }
  return (number, s.met)

-- Keeps a complete node under the anchor it was given.
def keep (anchor : Option (Nat × Nat)) (node : Node) : Descend Node := do
  match anchor with
  | some (number, order) => modify fun s => { s with anchored := { number, order, node } :: s.anchored }
  | none => pure ()
  return node

-- The number of the anchor of that name, which must have been met.
def number (name : String) : Descend Nat := do
  match (← get).names.lookup name with
  | some n => return n
  | none => refuse

-- The whole tag that a handle and a suffix stand for.
def wholeTag (handle suffix : String) : Descend String := do
  if handle.isEmpty then return suffix
  match (← get).handles.lookup handle with
  | some stem => return stem ++ suffix
  | none => refuse

-- An anchor and a tag before a node, in either order.
def properties : Descend (Option String × Option String) := do
  match ← peek with
  | some (.anchor name) =>
    skip
    match ← peek with
    | some (.tag handle suffix) =>
      skip
      return (some name, some (← wholeTag handle suffix))
    | _ => return (some name, none)
  | some (.tag handle suffix) =>
    skip
    match ← peek with
    | some (.anchor name) =>
      skip
      return (some name, some (← wholeTag handle suffix))
    | _ => return (none, some (← wholeTag handle suffix))
  | _ => return (none, none)

mutual

-- A node. Block collections are allowed in a block, and entries without indentation as the value of a
-- mapping.
def node (fuel : Nat) (inBlock indentless : Bool) : Descend Node :=
  match fuel with
  | 0 => refuse
  | fuel + 1 => do
    if let some (.alias name) ← peek then
      skip
      return .alias (← number name)
    let (name, tag) ← properties
    let anchor ← name.mapM enter
    match ← peek with
    | some .blockEntry =>
      if indentless then keep anchor (.sequence tag (← indentlessEntries fuel))
      else unfilled anchor tag
    | some (.scalar style text) =>
      skip
      keep anchor (.scalar (if tag = some "!" then none else tag) style text)
    | some .flowSequenceStart =>
      skip
      keep anchor (.sequence tag (← flowItems fuel true))
    | some .flowMappingStart =>
      skip
      keep anchor (.mapping tag (← flowPairs fuel true))
    | some .blockSequenceStart =>
      if inBlock then
        skip
        keep anchor (.sequence tag (← blockEntries fuel))
      else unfilled anchor tag
    | some .blockMappingStart =>
      if inBlock then
        skip
        keep anchor (.mapping tag (← blockPairs fuel))
      else unfilled anchor tag
    | _ => unfilled anchor tag

-- A node of which there is only an anchor or a tag.
def unfilled (anchor : Option (Nat × Nat)) (tag : Option String) : Descend Node :=
  if anchor.isSome || tag.isSome then keep anchor (.scalar tag .plain "") else refuse

-- The node that comes next in a block, unless one of these tokens shows that it is missing.
def blockItem (fuel : Nat) (indentless : Bool) (ends : List Token) : Descend Node := do
  if ← isNext ends then return .missing
  match fuel with
  | 0 => refuse
  | fuel + 1 => node fuel true indentless

-- The entries of a block sequence, up to its end.
def blockEntries (fuel : Nat) : Descend (List Node) :=
  match fuel with
  | 0 => refuse
  | fuel + 1 => do
    if ← accept .blockEntry then
      let item ← blockItem fuel false [.blockEntry, .blockEnd]
      return item :: (← blockEntries fuel)
    else if ← accept .blockEnd then return []
    else refuse

-- The entries of a sequence that is not indented against the mapping around it.
def indentlessEntries (fuel : Nat) : Descend (List Node) :=
  match fuel with
  | 0 => refuse
  | fuel + 1 => do
    if ← accept .blockEntry then
      let item ← blockItem fuel false [.blockEntry, .key, .value, .blockEnd]
      return item :: (← indentlessEntries fuel)
    else return []

-- The pairs of a block mapping, up to its end.
def blockPairs (fuel : Nat) : Descend (List (Node × Node)) :=
  match fuel with
  | 0 => refuse
  | fuel + 1 => do
    if ← accept .key then
      let key ← blockItem fuel true [.key, .value, .blockEnd]
      let value ← blockValue fuel
      return (key, value) :: (← blockPairs fuel)
    else if ← accept .blockEnd then return []
    else refuse

def blockValue (fuel : Nat) : Descend Node :=
  match fuel with
  | 0 => refuse
  | fuel + 1 => do
    if ← accept .value then blockItem fuel true [.key, .value, .blockEnd]
    else return .missing

-- The node that comes next in a flow collection, unless one of these tokens shows that it is missing.
def flowItem (fuel : Nat) (ends : List Token) : Descend Node := do
  if ← isNext ends then return .missing
  match fuel with
  | 0 => refuse
  | fuel + 1 => node fuel false false

-- A single pair among the items of a flow sequence, behind its key token.
def flowPair (fuel : Nat) : Descend Node :=
  match fuel with
  | 0 => refuse
  | fuel + 1 => do
    -- Where the key is missing, the token that shows it is passed over, whichever it is.
    if ← isNext [.value, .flowEntry, .flowSequenceEnd] then
      skip
      let value ← flowPairValue fuel
      return .mapping none [(.missing, value)]
    else
      let key ← node fuel false false
      let value ← flowPairValue fuel
      return .mapping none [(key, value)]

def flowPairValue (fuel : Nat) : Descend Node :=
  match fuel with
  | 0 => refuse
  | fuel + 1 => do
    if ← accept .value then flowItem fuel [.flowEntry, .flowSequenceEnd]
    else return .missing

-- The items of a flow sequence, up to its end.
def flowItems (fuel : Nat) (first : Bool) : Descend (List Node) :=
  match fuel with
  | 0 => refuse
  | fuel + 1 => do
    if ← accept .flowSequenceEnd then return []
    if !first then
      if !(← accept .flowEntry) then refuse
    if ← accept .flowSequenceEnd then return []
    if ← accept .key then
      let pair ← flowPair fuel
      return pair :: (← flowItems fuel false)
    else
      let item ← node fuel false false
      return item :: (← flowItems fuel false)

-- The pairs of a flow mapping, up to its end.
def flowPairs (fuel : Nat) (first : Bool) : Descend (List (Node × Node)) :=
  match fuel with
  | 0 => refuse
  | fuel + 1 => do
    if ← accept .flowMappingEnd then return []
    if !first then
      if !(← accept .flowEntry) then refuse
    if ← accept .flowMappingEnd then return []
    if ← accept .key then
      let key ← flowItem fuel [.value, .flowEntry, .flowMappingEnd]
      let value ← flowValue fuel
      return (key, value) :: (← flowPairs fuel false)
    else
      let key ← node fuel false false
      return (key, .missing) :: (← flowPairs fuel false)

def flowValue (fuel : Nat) : Descend Node :=
  match fuel with
  | 0 => refuse
  | fuel + 1 => do
    if ← accept .value then flowItem fuel [.flowEntry, .flowMappingEnd]
    else return .missing

end

-- The directives before a document. A version is given at most once, and a handle too.
def directives (fuel : Nat) (versioned : Bool) (handles : List (String × String)) :
    Descend (List (String × String)) :=
  match fuel with
  | 0 => refuse
  | fuel + 1 => do
    match ← peek with
    | some (.versionDirective major minor) =>
      if versioned || major ≠ 1 || (minor ≠ 1 && minor ≠ 2) then refuse
      skip
      directives fuel true handles
    | some (.tagDirective handle stem) =>
      -- The standard handles are not there yet, so a directive may change them.
      if (handles.lookup handle).isSome then refuse
      skip
      directives fuel versioned (handles ++ [(handle, stem)])
    | _ => return handles

-- The handles that need no directive.
def standardHandles : List (String × String) :=
  [("!", "!"), ("!!", "tag:yaml.org,2002:")]

-- Whether the next token is a directive or a document mark.
def atDocumentStart : Descend Bool := do
  match ← peek with
  | some (.versionDirective _ _) => return true
  | some (.tagDirective _ _) => return true
  | some .documentStart => return true
  | _ => return false

def skipEnds (fuel : Nat) : Descend Unit :=
  match fuel with
  | 0 => return ()
  | fuel + 1 => do
    if ← accept .documentEnd then skipEnds fuel

-- The only document of a text.
def document (fuel : Nat) : Descend (Option Node) := do
  let root ←
    match ← peek with
    | none => return none
    | some _ =>
      if ← atDocumentStart then
        let handles ← directives fuel false []
        modify fun s => { s with handles := handles ++ standardHandles }
        if !(← accept .documentStart) then refuse
        if (← atDocumentStart) || (← isNext [.documentEnd]) || (← peek).isNone then pure .missing
        else node fuel true false
      else
        modify fun s => { s with handles := standardHandles }
        node fuel true false
  skipEnds fuel
  if (← peek).isSome then refuse
  return some root

end Descend

def Document.ofTokens? (ts : List Token) : Option Document :=
  ((Descend.document (4 * ts.length + 8)).run { tokens := ts }).map fun (root, s) =>
    { root, anchors := s.anchored }

-- Reads a text that holds at most one document.
def Document.read (cs : List Char) : Option Document :=
  (Token.scan cs).bind ofTokens?

end Sluice.Yaml
