import Sluice.Decimal.Basic
import Sluice.Text.Basic

namespace Sluice.Yaml.Core

-- Whether a text stands for no value.
def isNull (cs : List Char) : Bool :=
  ["~", "null", "Null", "NULL"].contains (String.ofList cs)

-- Whether all are digits, but with a zero in front of others.
def isPadded (cs : List Char) : Bool :=
  cs.head? = some '0' && 1 < cs.length && cs.all Char.isDigit

def magnitude? (cs : List Char) : Option Nat :=
  match cs with
  | '0' :: 'x' :: ds => natural? 16 ds
  | '0' :: 'o' :: ds => natural? 8 ds
  | '0' :: 'b' :: ds => natural? 2 ds
  | ds => if isPadded ds then none else natural? 10 ds

-- A whole number, with or without a sign.
def integer? (cs : List Char) : Option Int :=
  match cs with
  | '+' :: ds => (magnitude? ds).map Int.ofNat
  | '-' :: ds => (magnitude? ds).map fun n => -(n : Int)
  | ds => (magnitude? ds).map Int.ofNat

-- The exponent of a double: what follows the digits, if that is well formed.
def exponent? (cs : List Char) : Option Int :=
  match cs with
  | [] => some 0
  | e :: ds =>
    if e = 'e' || e = 'E' then
      match ds with
      | '+' :: ds => (natural? 10 ds).map Int.ofNat
      | '-' :: ds => (natural? 10 ds).map fun n => -(n : Int)
      | ds => (natural? 10 ds).map Int.ofNat
    else none

-- A decimal without a sign: digits on at least one side of the point, if there is one.
def decimal? (cs : List Char) : Option Decimal := do
  let whole := cs.takeWhile Char.isDigit
  let rest := cs.drop whole.length
  let (fraction, rest) :=
    match rest with
    | '.' :: more => (more.takeWhile Char.isDigit, more.dropWhile Char.isDigit)
    | _ => ([], rest)
  let digits ← natural? 10 (whole ++ fraction)
  let exponent ← exponent? rest
  return { digits, exponent := exponent - fraction.length }

-- A finite double without a sign.
def finite? (cs : List Char) : Option Float :=
  (decimal? cs).bind (·.toFloat?)

-- A double, with or without a sign. Infinity and the lack of a number start with a point.
def double? (cs : List Char) : Option Float :=
  let isInfinite := [".inf", ".Inf", ".INF"].contains
  if [".nan", ".NaN", ".NAN"].contains (String.ofList cs) then some (0 / 0)
  else
    match cs with
    | '-' :: more => if isInfinite (String.ofList more) then some (-1 / 0) else (finite? more).map (- ·)
    | '+' :: more => if isInfinite (String.ofList more) then some (1 / 0) else finite? more
    | more => if isInfinite (String.ofList more) then some (1 / 0) else finite? more

end Sluice.Yaml.Core
