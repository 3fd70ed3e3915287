namespace Sluice

abbrev Bytes := List UInt8

namespace Utf8

-- The bytes of a text, character by character.
def encode (cs : List Char) : Bytes :=
  cs.flatMap String.utf8EncodeChar

-- What a character still lacks after its first byte.
structure Pending where
  owed : Nat
  low  : UInt8 := 0x80
  high : UInt8 := 0xBF
  bits : Nat

-- What the first byte of a character promises; `none` where no character starts with that byte.
def lead? (b : UInt8) : Option Pending :=
  if b < 0x80 then some { owed := 0, bits := b.toNat }
  else if b < 0xC2 then none
  else if b < 0xE0 then some { owed := 1, bits := b.toNat - 0xC0 }
  else if b = 0xE0 then some { owed := 2, low := 0xA0, bits := 0 }
  else if b = 0xED then some { owed := 2, high := 0x9F, bits := 13 }
  else if b < 0xF0 then some { owed := 2, bits := b.toNat - 0xE0 }
  else if b = 0xF0 then some { owed := 3, low := 0x90, bits := 0 }
  else if b < 0xF4 then some { owed := 3, bits := b.toNat - 0xF0 }
  else if b = 0xF4 then some { owed := 3, high := 0x8F, bits := 4 }
  else none

-- The bytes that a character is still owed. Beside the character, or `none` if a byte is missing or out
-- of range, stands what follows the bytes that did fit.
def settle (owed : Nat) (low high : UInt8) (bits : Nat) (bs : Bytes) : Option Char × Bytes :=
  match owed, bs with
  | 0, bs => (some (Char.ofNat bits), bs)
  | _ + 1, [] => (none, [])
  | owed + 1, b :: bs =>
    if low ≤ b && b ≤ high then
      settle owed 0x80 0xBF (bits * 64 + b.toNat % 64) bs
    else
      (none, b :: bs)

-- The character that starts with byte `b`, and what follows.
def next (b : UInt8) (bs : Bytes) : Option Char × Bytes :=
  match lead? b with
  | some p => settle p.owed p.low p.high p.bits bs
  | none => (none, bs)

theorem settle_length_le (owed : Nat) (low high : UInt8) (bits : Nat) (bs : Bytes) :
    (settle owed low high bits bs).2.length ≤ bs.length := by
  induction bs generalizing owed low high bits with
  | nil => cases owed <;> simp [settle]
  | cons b bs ih =>
    cases owed with
    | zero => simp [settle]
    | succ owed =>
      simp only [settle]
      split
      · exact Nat.le_succ_of_le (ih ..)
      · simp

theorem next_length_le (b : UInt8) (bs : Bytes) : (next b bs).2.length ≤ bs.length := by
  unfold next
  split
  · exact settle_length_le ..
  · simp

-- The characters of a text, with U+FFFD for each stretch that spells none.
def decodeLossy (bs : Bytes) : List Char :=
  match bs with
  | [] => []
  | b :: bs => (next b bs).1.getD '\uFFFD' :: decodeLossy (next b bs).2
termination_by bs.length
decreasing_by
  have := next_length_le b bs
  simp only [List.length_cons]
  omega

-- The characters of a text, if its bytes are UTF-8 throughout.
def decode? (bs : Bytes) : Option (List Char) :=
  match bs with
  | [] => some []
  | b :: bs =>
    match (next b bs).1 with
    | none => none
    | some c => (decode? (next b bs).2).map (c :: ·)
termination_by bs.length
decreasing_by
  have := next_length_le b bs
  simp only [List.length_cons]
  omega

-- How many bytes stand before the first one that belongs to no character.
def validLength (bs : Bytes) : Nat :=
  match bs with
  | [] => 0
  | b :: bs =>
    match (next b bs).1 with
    | none => 0
    | some c => c.utf8Size + validLength (next b bs).2
termination_by bs.length
decreasing_by
  have := next_length_le b bs
  simp only [List.length_cons]
  omega

-- The number of bytes that a text takes.
def size (cs : List Char) : Nat :=
  cs.foldr (·.utf8Size + ·) 0

-- Whether a character starts at place `i` of a text, or the text ends there.
def isBoundary (bs : Bytes) (i : Nat) : Bool :=
  match bs[i]? with
  | some b => b &&& 0xC0 ≠ 0x80
  | none => i = bs.length

-- The last place at or before `i` where a character starts.
def backUp (bs : Bytes) : Nat → Nat
  | 0 => 0
  | i + 1 => if isBoundary bs (i + 1) then i + 1 else backUp bs i

end Utf8

def Bytes.ofString (s : String) : Bytes :=
  Utf8.encode s.toList

-- The string that the bytes spell, if they are UTF-8.
def Bytes.toString? (bs : Bytes) : Option String :=
  (Utf8.decode? bs).map String.ofList

end Sluice
