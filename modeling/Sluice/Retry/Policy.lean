import Sluice.Decimal.Layout
import Sluice.Duration
import Sluice.Fault

namespace Sluice

-- The power `a ^ n`, by squaring: the factors are multiplied up from the lowest binary digit.
def powFloat (a : Float) (n : Nat) : Float :=
  go 1 a n
where
  go (r a : Float) (n : Nat) : Float :=
    let r := if n % 2 = 1 then r * a else r
    if n < 2 then r else go r (a * a) (n / 2)
  termination_by n
  decreasing_by omega

structure RetryPolicy where
  -- How many attempts are made at most, the first one included.
  maxAttempts    : Nat
  initialBackoff : Duration
  maxBackoff     : Duration
  multiplier     : Float
  retryable      : List Code

namespace RetryPolicy

def default : RetryPolicy where
  maxAttempts := 4
  initialBackoff := .ofMillis 10
  maxBackoff := .ofMillis 100
  multiplier := 2
  retryable := [.unavailable]

instance : Inhabited RetryPolicy := ⟨default⟩

def once : RetryPolicy :=
  { default with maxAttempts := 1, retryable := [] }

def make (maxAttempts : Nat) (initialBackoff maxBackoff : Duration) (multiplier : Float)
    (retryable : List Code) : Except Fault RetryPolicy :=
  if maxAttempts = 0 then
    .error (.config "retry max_attempts must be at least 1")
  else if !multiplier.isFinite || multiplier < 1 then
    .error (.config s!"retry backoff_multiplier must be a finite number >= 1, got {Decimal.plain.render multiplier}")
  else if maxBackoff < initialBackoff then
    .error (.config s!"retry initial_backoff ({initialBackoff.text}) exceeds max_backoff ({maxBackoff.text})")
  else .ok { maxAttempts, initialBackoff, maxBackoff, multiplier, retryable }

def isRetryable (p : RetryPolicy) (c : Code) : Bool :=
  p.retryable.contains c

-- The greatest power that a backoff is computed with.
def exponentLimit : Nat := 2147483647

-- The wait after the given failed attempt, the first being number 1.
def backoff (p : RetryPolicy) (attempt : Nat) : Duration :=
  let secs := p.initialBackoff.toSeconds * powFloat p.multiplier (min (attempt - 1) exponentLimit)
  if !secs.isFinite || p.maxBackoff.toSeconds ≤ secs then p.maxBackoff else .ofSeconds secs

-- The failures that are tried again, in the order in which codes are listed.
def retryableCodes (p : RetryPolicy) : List Code :=
  Code.all.filter p.isRetryable

end RetryPolicy

end Sluice
