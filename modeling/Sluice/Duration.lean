import Sluice.Decimal.Basic

namespace Sluice

structure Duration where
  nanos : Nat
  deriving DecidableEq, Repr, Inhabited

namespace Duration

instance : LT Duration := ⟨fun a b => a.nanos < b.nanos⟩
instance : LE Duration := ⟨fun a b => a.nanos ≤ b.nanos⟩
instance (a b : Duration) : Decidable (a < b) := inferInstanceAs (Decidable (a.nanos < b.nanos))
instance (a b : Duration) : Decidable (a ≤ b) := inferInstanceAs (Decidable (a.nanos ≤ b.nanos))

def zero : Duration := ⟨0⟩

def ofMillis (ms : Nat) : Duration := ⟨ms * 1000000⟩

def ofParts (secs nanos : Nat) : Duration := ⟨secs * 1000000000 + nanos⟩

def secs (d : Duration) : Nat := d.nanos / 1000000000

def subsecNanos (d : Duration) : Nat := d.nanos % 1000000000

def millis (d : Duration) : Nat := d.nanos / 1000000

-- The span in seconds: whole seconds and the rest are each rounded to a double, then added.
def toSeconds (d : Duration) : Float :=
  d.secs.toUInt64.toFloat + d.subsecNanos.toUInt64.toFloat / 1e9

-- The span nearest to a number of seconds, which is finite and not negative.
def ofSeconds (s : Float) : Duration :=
  if s == 0 then zero
  else
    let x := Decimal.Binary.ofBits s.toBits
    ⟨Decimal.roundHalfEven (x.num * 1000000000) x.den⟩

-- The part of a unit, `width` digits wide, without the zeros at its end.
def fractionDigits (width n : Nat) : List Char :=
  let ds := Nat.toDigits 10 n
  ((List.replicate (width - ds.length) '0' ++ ds).reverse.dropWhile (· = '0')).reverse

-- A number of units, each of `10 ^ width` parts.
def unitText (width n : Nat) (unit : String) : String :=
  let whole := toString (n / Decimal.power 10 width)
  let part := fractionDigits width (n % Decimal.power 10 width)
  if part.isEmpty then whole ++ unit else whole ++ "." ++ String.ofList part ++ unit

-- The span in the largest unit of which there is at least one whole.
def text (d : Duration) : String :=
  if 1000000000 ≤ d.nanos then unitText 9 d.nanos "s"
  else if 1000000 ≤ d.nanos then unitText 6 d.nanos "ms"
  else if 1000 ≤ d.nanos then unitText 3 d.nanos "µs"
  else unitText 0 d.nanos "ns"

end Duration

-- Nanoseconds, on a clock whose timers have whole milliseconds.
abbrev Instant := Nat

namespace Instant

-- The end of the clock, whose seconds are counted with 63 bits. Calls reckon as if it had none.
def limit : Nat := Decimal.power 2 63 * 1000000000

-- When a wait that is due at `t` ends: with the first whole millisecond that is not before it.
def wake (t : Nat) : Nat :=
  (t + 999999) / 1000000 * 1000000

def ofMillis (ms : Nat) : Nat := ms * 1000000

def toMillis (t : Nat) : Nat := t / 1000000

theorem le_wake (t : Nat) : t ≤ wake t := by
  unfold wake; omega

theorem wake_mono {s t : Nat} (h : s ≤ t) : wake s ≤ wake t := by
  unfold wake
  exact Nat.mul_le_mul_right _ (Nat.div_le_div_right (by omega))

@[simp] theorem wake_wake (t : Nat) : wake (wake t) = wake t := by
  unfold wake; omega

end Instant

end Sluice
