namespace Sluice

structure Decimal where
  digits   : Nat
  exponent : Int
  deriving DecidableEq, Repr

namespace Decimal

-- The power `b ^ k`; for a negative `k` it is 1.
def power (b : Nat) (k : Int) : Nat :=
  b.pow k.toNat

-- A positive finite binary64 value.
structure Binary where
  m : Nat
  q : Int
  -- The next double below is half as far away as the next one above.
  halvedBelow : Bool

-- The magnitude that the bits of a finite double stand for.
def Binary.ofBits (bits : UInt64) : Binary :=
  let e := ((bits >>> 52) &&& 0x7FF).toNat
  let f := (bits &&& 0xFFFFFFFFFFFFF).toNat
  if e = 0 then { m := f, q := -1074, halvedBelow := false }
  else { m := power 2 52 + f, q := e - 1075, halvedBelow := f = 0 && 1 < e }

-- Which of two equally near decimals is taken.
inductive Tie where
  | even
  | up
  deriving DecidableEq

-- Compares `a · 10 ^ i` with `n · 2 ^ j`.
def compareScaled (a : Nat) (i : Int) (n : Nat) (j : Int) : Ordering :=
  compare (a * power 10 i * power 2 (-j)) (n * power 2 j * power 10 (-i))

-- Whether the decimal lies among the reals that round to `x`.
def Binary.admitsDecimal (x : Binary) (d : Decimal) : Bool :=
  let low  := compareScaled d.digits d.exponent (if x.halvedBelow then 4 * x.m - 1 else 4 * x.m - 2) (x.q - 2)
  let high := compareScaled d.digits d.exponent (4 * x.m + 2) (x.q - 2)
  let ends := x.m % 2 = 0
  (low = .gt || (ends && low = .eq)) && (high = .lt || (ends && high = .eq))

-- How many decimal digits `n` has; zero has none.
def digitCount (n : Nat) : Nat :=
  if n = 0 then 0 else (Nat.toDigits 10 n).length

namespace Binary

variable (x : Binary)

def num : Nat := x.m * power 2 x.q

def den : Nat := power 2 (-x.q)

-- The exponent of the leading decimal digit: the `e` with `10 ^ e ≤ x < 10 ^ (e + 1)`.
def magnitude : Int :=
  if x.den ≤ x.num then digitCount (x.num / x.den) - 1
  else -(digitCount ((x.den + x.num - 1) / x.num - 1) : Int)

-- The greatest decimal with unit `10 ^ unit` that is not above the value.
def floorAt (unit : Int) : Nat :=
  x.num * power 10 (-unit) / (x.den * power 10 unit)

-- Of the decimal `d` below the value and its successor, the one that is nearer.
def nearer (tie : Tie) (d : Decimal) : Decimal :=
  let above : Decimal := { d with digits := d.digits + 1 }
  match compareScaled (2 * d.digits + 1) d.exponent (2 * x.m) x.q with
  | .lt => above
  | .gt => d
  | .eq => if tie = .up || d.digits % 2 = 1 then above else d

-- The neighbour with `n` digits that reads back as the value, if there is one.
def withDigits? (tie : Tie) (n : Nat) : Option Decimal :=
  let unit := x.magnitude - n + 1
  let below : Decimal := { digits := x.floorAt unit, exponent := unit }
  let above : Decimal := { below with digits := below.digits + 1 }
  match x.admitsDecimal below, x.admitsDecimal above with
  | true, true => some (x.nearer tie below)
  | true, false => some below
  | false, true => some above
  | false, false => none

-- The value written in full.
def exact : Decimal :=
  if 0 ≤ x.q then { digits := x.num, exponent := 0 }
  else { digits := x.m * power 5 (-x.q), exponent := x.q }

-- The decimal with the fewest digits that reads back as the value. The reals that round to the value form an
-- interval around it, and on the grid of `n`-digit decimals it has two neighbours, so the coarsest grid with a
-- neighbour inside the interval gives the digits.
def shortest (tie : Tie) : Decimal :=
  ((List.range' 1 17).findSome? (x.withDigits? tie)).getD x.exact

end Binary

-- The whole number nearest to `num / den`; a half goes to the even neighbour.
def roundHalfEven (num den : Nat) : Nat :=
  let n := num / den
  match compare (2 * (num % den)) den with
  | .lt => n
  | .gt => n + 1
  | .eq => n + n % 2

def scaledRatio (num den : Nat) (q : Int) : Nat × Nat :=
  (num * power 2 (-q), den * power 2 q)

-- The exponent of the last binary digit that a double has room for at the magnitude of `num / den`.
def unitExponent (num den : Nat) : Int :=
  let q : Int := (Nat.log2 num : Int) - Nat.log2 den - 53
  let (n, d) := scaledRatio num den q
  max (if power 2 53 * d ≤ n then q + 1 else q) (-1074)

-- The bits of the double nearest to a positive fraction.
def nearestBits (num den : Nat) : Nat :=
  let q := unitExponent num den
  let (n, d) := scaledRatio num den q
  let m := roundHalfEven n d
  if m < power 2 52 then m else (q + 1074).toNat * power 2 52 + m

def infiniteBits : Nat := 2047 * power 2 52

-- The double nearest to a decimal, unless it is too large for one.
def toFloat? (d : Decimal) : Option Float :=
  let leading := d.exponent + digitCount d.digits
  if d.digits = 0 || leading < -330 then some 0
  else if 310 < leading then none
  else
    let bits := nearestBits (d.digits * power 10 d.exponent) (power 10 (-d.exponent))
    if bits < infiniteBits then some (Float.ofBits bits.toUInt64) else none

end Decimal

end Sluice
