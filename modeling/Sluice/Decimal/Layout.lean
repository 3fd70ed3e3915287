import Sluice.Decimal.Basic

namespace Sluice.Decimal

-- The decisions that a format makes about its numbers.
structure Layout where
  -- The exponents of the leading digit that are written positionally: from the first up to, and not
  -- including, the second. Without bounds every number is.
  positional   : Option (Int × Int)
  -- Whether a whole number ends in `.0`.
  keepFraction : Bool
  tie          : Tie

namespace Layout

variable (layout : Layout)

-- Whether a number whose leading digit has exponent `e` is written positionally.
def isPositional (e : Int) : Bool :=
  match layout.positional with
  | some (first, limit) => first ≤ e && e < limit
  | none => true

-- The digits `ds`, the first of which has exponent `e`, in positional notation.
def placed (ds : List Char) (e : Int) : List Char :=
  if e < 0 then
    ['0', '.'] ++ List.replicate ((-e).toNat - 1) '0' ++ ds
  else
    let whole := e.toNat + 1
    if ds.length ≤ whole then
      ds ++ List.replicate (whole - ds.length) '0' ++ if layout.keepFraction then ['.', '0'] else []
    else
      ds.take whole ++ ['.'] ++ ds.drop whole

-- The digits `ds`, the first of which has exponent `e`, in scientific notation.
def scientific (ds : List Char) (e : Int) : List Char :=
  ds.take 1 ++ (if ds.length ≤ 1 then [] else '.' :: ds.drop 1) ++ ['e'] ++
    [if e < 0 then '-' else '+'] ++ Nat.toDigits 10 e.natAbs

-- The digits of a number without the zeros at their end.
def significant (n : Nat) : List Char :=
  let ds := Nat.toDigits 10 n
  ds.take 1 ++ ((ds.drop 1).reverse.dropWhile (· = '0')).reverse

-- The text of a positive value.
def magnitude (x : Binary) : List Char :=
  let d := x.shortest layout.tie
  let e := d.exponent + digitCount d.digits - 1
  let ds := significant d.digits
  if layout.isPositional e then layout.placed ds e else scientific ds e

def render (f : Float) : String :=
  if f.isNaN then "NaN"
  else
    let bits := f.toBits
    let sign := if bits >>> 63 = 1 then ['-'] else []
    let body :=
      if f.isInf then ['i', 'n', 'f']
      else if bits <<< 1 = 0 then (if layout.keepFraction then ['0', '.', '0'] else ['0'])
      else layout.magnitude (.ofBits bits)
    String.ofList (sign ++ body)

end Layout

-- Numbers in messages never use an exponent, and whole ones show no fraction.
def plain : Layout :=
  { positional := none, keepFraction := false, tie := .up }

end Sluice.Decimal
