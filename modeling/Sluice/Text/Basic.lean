namespace Sluice

-- The parts between separators; there is one more of them than of separators, and put together with separators
-- in between they give the text back.
def splitAtEach (sep : Char) : List Char → List (List Char)
  | [] => [[]]
  | c :: cs =>
    if c = sep then [] :: splitAtEach sep cs
    else
      match splitAtEach sep cs with
      | [] => [[c]]
      | part :: parts => (c :: part) :: parts

-- Whether the character is white space in the sense of Unicode.
def isBlank (c : Char) : Bool :=
  let n := c.toNat
  (9 ≤ n && n ≤ 13) || n = 0x20 || n = 0x85 || n = 0xA0 || n = 0x1680 ||
    (0x2000 ≤ n && n ≤ 0x200A) || n = 0x2028 || n = 0x2029 || n = 0x202F || n = 0x205F || n = 0x3000

-- The text without the characters that satisfy `p` at either end.
def trimBy (p : Char → Bool) (cs : List Char) : List Char :=
  ((cs.dropWhile p).reverse.dropWhile p).reverse

-- The text without white space at either end.
def trimBlank (cs : List Char) : List Char :=
  trimBy isBlank cs

-- The kinds of whole numbers without a sign.
inductive Word where
  | word32
  | word64
  -- A number of things that are kept in memory.
  | size
  deriving DecidableEq, Repr

-- The first number that does not fit.
def Word.bound : Word → Nat
  | word32 => UInt32.size
  | word64 => UInt64.size
  | size => UInt64.size

def fitsInt64 (i : Int) : Bool :=
  -9223372036854775808 ≤ i && i ≤ 9223372036854775807

-- The value of a digit. Letters count from ten on, in either case.
def digit? (base : Nat) (c : Char) : Option Nat :=
  let value :=
    if c.isDigit then c.toNat - 48
    else if c.isLower then c.toNat - 87
    else if c.isUpper then c.toNat - 55
    else base
  if value < base then some value else none

-- The number that digits make, most significant digit first; there must be one at least, and nothing else.
def natural? (base : Nat) (cs : List Char) : Option Nat :=
  if cs.isEmpty then none
  else cs.foldlM (fun n c => (digit? base c).map (n * base + ·)) 0

-- The number that decimal digits make, if it is not above a limit.
def naturalUpTo? (limit : Nat) (cs : List Char) : Option Nat :=
  (natural? 10 cs).filter (· ≤ limit)

-- A whole number of 64 bits, with or without a sign.
def integer64? (cs : List Char) : Option Int :=
  let number? : Option Int := match cs with
    | '-' :: ds => (natural? 10 ds).map fun n => -(n : Int)
    | '+' :: ds => (natural? 10 ds).map Int.ofNat
    | ds => (natural? 10 ds).map Int.ofNat
  number?.filter fitsInt64

end Sluice
