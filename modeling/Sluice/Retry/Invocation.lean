import Sluice.Call
import Sluice.Duration
import Sluice.Endpoint
import Sluice.Retry.Policy

namespace Sluice

-- What a node does with a call it has been sent.
inductive Arrival where
  -- It answers after that long.
  | after (delay : Duration) (answer : Except Status Response)
  | never

-- The pool and the nodes: a state, one selector step, and one dispatch that says when and how a node answers.
structure Surroundings (σ : Type) where
  pick : σ → Option Endpoint × σ
  send : Endpoint → Call → Instant → σ → Arrival × σ

-- When the caller gives up a call. A wait that ends at that instant still ends normally.
inductive Cancellation where
  | never
  | beforehand
  | at (t : Instant)
  deriving DecidableEq

namespace Cancellation

-- Whether the call has been given up before `now`.
def before (c : Cancellation) (now : Instant) : Bool :=
  match c with
  | never => false
  | beforehand => true
  | .at t => t < now

-- Where a wait from `now` to `finish` is cut short, if it is.
def cut? (c : Cancellation) (now finish : Instant) : Option Instant :=
  match c with
  | never => none
  | beforehand => some now
  | .at t => if t < finish then some (max t now) else none

end Cancellation

structure Attempt where
  node   : Endpoint
  start  : Instant
  finish : Instant
  -- How it ended; `none` if the caller gave up.
  answer : Option (Except Status Response)

structure Invocation (σ : Type) where
  result   : Except Fault Response
  attempts : List Attempt
  picks    : Nat
  finish   : Instant
  state    : σ

namespace Invocation

variable {σ : Type}

-- How a dispatch that started at `now` ends: with the node's answer, or without one at the deadline.
def settle (node : Endpoint) (deadline now : Instant) : Arrival → Instant × Except Status Response
  | .after delay answer =>
    let finish := Instant.wake (now + delay.nanos)
    if finish ≤ Instant.wake deadline then (finish, answer) else timedOut
  | .never => timedOut
where
  timedOut : Instant × Except Status Response :=
    (Instant.wake deadline,
      .error ⟨.deadlineExceeded, s!"no response from {node.address} within {(Duration.mk (deadline - now)).text}"⟩)

-- Attempt number `n` and those after it, of which there may be `left`.
def attempt (policy : RetryPolicy) (env : Surroundings σ) (call : Call) (deadline : Instant)
    (cancel : Cancellation) (left n : Nat) (now : Instant) (past : List Attempt) (s : σ) : Invocation σ :=
  let give (result : Except Fault Response) (past : List Attempt) (picks : Nat) (finish : Instant) (s : σ) :
      Invocation σ :=
    { result, attempts := past.reverse, picks, finish, state := s }
  -- A call that was given up is not dispatched, whatever time is left.
  if cancel.before now then give (.error .cancelled) past (n - 1) now s
  else if deadline ≤ now then
    give (.error (.call (n - 1) ⟨.deadlineExceeded, "deadline passed before dispatch"⟩)) past (n - 1) now s
  else
    match env.pick s with
    | (none, s) => give (.error .emptyPool) past n now s
    | (some node, s) =>
      let (arrival, s) := env.send node call now s
      let (finish, answer) := settle node deadline now arrival
      -- A dispatch that is cut short has taken place, but nobody hears its answer.
      match cancel.cut? now finish with
      | some cut =>
        give (.error .cancelled) ({ node, start := now, finish := cut, answer := none } :: past) n cut s
      | none =>
        let past := { node, start := now, finish, answer := some answer } :: past
        match answer with
        | .ok reply => give (.ok reply) past n finish s
        | .error status =>
          match left with
          | 0 => give (.error (.call n status)) past n finish s
          | left + 1 =>
            if !policy.isRetryable status.code then give (.error (.call n status)) past n finish s
            else
              let due := finish + (policy.backoff n).nanos
              -- The wait would reach the deadline, so the failure is reported at once and not after it.
              if deadline ≤ due then give (.error (.call n status)) past n finish s
              else
                match cancel.cut? finish (Instant.wake due) with
                | some cut => give (.error .cancelled) past n cut s
                | none => attempt policy env call deadline cancel left (n + 1) (Instant.wake due) past s

def run (policy : RetryPolicy) (env : Surroundings σ) (call : Call) (deadline : Instant)
    (cancel : Cancellation) (now : Instant) (s : σ) : Invocation σ :=
  attempt policy env call deadline cancel (policy.maxAttempts - 1) 1 now [] s

end Invocation

end Sluice
