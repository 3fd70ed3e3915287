import Sluice.Call
import Sluice.Fault
import Sluice.Json.Printer

namespace Sluice

-- What becomes of a call whose limiter cannot be asked.
inductive FailPolicy where
  | failClosed
  | failOpen
  deriving DecidableEq, Repr

def FailPolicy.name : FailPolicy → String
  | failClosed => "fail_closed"
  | failOpen => "fail_open"

inductive Verdict where
  | allow
  | deny
  | fail (cause : String)
  deriving DecidableEq, Repr

-- Which calls a check applies to, and what they are charged to.
inductive Scope where
  -- Every call, on one key.
  | everything (key : String)
  -- The calls whose method starts so, on one key.
  | service (stem : String) (key : String)
  -- The calls of one method, on a key for each value of a field.
  | businessKey (method : String) (field : String)
  deriving DecidableEq, Repr

namespace Scope

def tier : Scope → Tier
  | everything _ => .global
  | service _ _ => .service
  | businessKey _ _ => .businessKey

-- The text of a field that can be charged: strings, numbers and truth values can.
def chargeText? : Json → Option String
  | .str s => some s
  | .bool b => some (Json.bool b).render
  | .int i => some (Json.int i).render
  | .float f => some (Json.float f).render
  | _ => none

-- The key that a call is charged to, if the check applies to it.
def key? (scope : Scope) (call : Call) : Option String :=
  match scope with
  | everything key => some key
  | service stem key => if stem.toList.isPrefixOf call.method.toList then some key else none
  | businessKey method field =>
    if call.method = method then
      ((call.field? field).bind chargeText?).map fun text => method ++ ":" ++ text
    else none

end Scope

structure Check (ι : Type) where
  scope   : Scope
  limiter : ι

-- The limiters are named by a type `ι` and asked through a function that carries their state along, so the
-- chain is the same for limiters of every kind.
structure Chain (ι : Type) where
  checks  : List (Check ι)
  onError : FailPolicy

namespace Chain

variable {ι σ α : Type}

def permissive : Chain ι :=
  { checks := [], onError := .failClosed }

def isEmpty (c : Chain ι) : Bool := c.checks.isEmpty

-- Makes the checks in order until one refuses.
def screenChecks (ask : ι → String → σ → Verdict × σ) (onError : FailPolicy) (call : Call) :
    List (Check ι) → σ → Except Fault Unit × σ
  | [], s => (.ok (), s)
  | check :: checks, s =>
    match check.scope.key? call with
    | none => screenChecks ask onError call checks s
    | some key =>
      match ask check.limiter key s with
      | (.allow, s) => screenChecks ask onError call checks s
      | (.deny, s) => (.error (.limited check.scope.tier), s)
      | (.fail cause, s) =>
        match onError with
        | .failClosed => (.error (.limiterUnavailable check.scope.tier cause), s)
        | .failOpen => screenChecks ask onError call checks s

def screen (c : Chain ι) (ask : ι → String → σ → Verdict × σ) (call : Call) (s : σ) : Except Fault Unit × σ :=
  screenChecks ask c.onError call c.checks s

-- Goes on with `next` if the chain lets the call pass.
def intercept (c : Chain ι) (ask : ι → String → σ → Verdict × σ) (call : Call)
    (next : σ → Except Fault α × σ) (s : σ) : Except Fault α × σ :=
  match c.screen ask call s with
  | (.ok (), s) => next s
  | (.error e, s) => (.error e, s)

end Chain

end Sluice
