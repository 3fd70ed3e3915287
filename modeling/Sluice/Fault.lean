import Sluice.Code
import Sluice.Call
import Sluice.Json.Printer
import Sluice.Json.Reader

namespace Sluice

-- How wide a quota reaches.
inductive Tier where
  | global
  | service
  | businessKey
  deriving DecidableEq, Repr

def Tier.name : Tier → String
  | global => "global"
  | service => "service"
  | businessKey => "business_key"

inductive Fault where
  -- Settings that make no sense.
  | config (message : String)
  | emptyPool
  | limited (tier : Tier)
  -- A quota of that tier could not be asked, and the call does not pass without it.
  | limiterUnavailable (tier : Tier) (cause : String)
  -- The call failed; `status` is how the last attempt did.
  | call (attempts : Nat) (status : Status)
  | cancelled
  -- The request does not make a call.
  | badRequest (message : String)
  | methodNotAllowed
  | bodyTooLarge (limit : Nat)
  -- Too many requests are under way.
  | serviceUnavailable (limit : Nat)
  | internal (message : String)
  deriving DecidableEq, Repr

namespace Fault

def message : Fault → String
  | config m => s!"configuration error: {m}"
  | emptyPool => "no backend node available"
  | limited tier => s!"rate limited by {tier.name} limiter"
  | limiterUnavailable tier cause => s!"{tier.name} limiter could not be evaluated: {cause}"
  | call attempts status => s!"call failed after {attempts} attempt(s): {status.text}"
  | cancelled => "call cancelled"
  | badRequest m => s!"bad request: {m}"
  | methodNotAllowed => "only POST requests carry calls"
  | bodyTooLarge limit => s!"request body exceeds the {limit} byte limit"
  | serviceUnavailable limit => s!"concurrency limit of {limit} requests reached"
  | internal m => s!"internal error: {m}"

def kind : Fault → String
  | config _ => "config_error"
  | emptyPool => "empty_pool"
  | limited _ => "resource_exhausted"
  | limiterUnavailable _ _ => "limiter_unavailable"
  | call _ _ => "call_failed"
  | cancelled => "cancelled"
  | badRequest _ => "bad_request"
  | methodNotAllowed => "method_not_allowed"
  | bodyTooLarge _ => "body_too_large"
  | serviceUnavailable _ => "service_unavailable"
  | internal _ => "internal_error"

def httpStatus : Fault → Nat
  | config _ => 500
  | internal _ => 500
  | emptyPool => 503
  | limiterUnavailable _ _ => 503
  | serviceUnavailable _ => 503
  | limited _ => 429
  | call _ status => status.code.httpStatus
  | cancelled => Code.cancelled.httpStatus
  | badRequest _ => 400
  | methodNotAllowed => 405
  | bodyTooLarge _ => 413

-- The failure underneath, where there is one.
def source? : Fault → Option String
  | limiterUnavailable _ cause => some cause
  | call _ status => some status.text
  | _ => none

-- The fields that only some faults have.
def details : Fault → List (String × Json)
  | limited tier => [("tier", .str tier.name)]
  | limiterUnavailable tier _ => [("tier", .str tier.name)]
  | call attempts status => [("attempts", .int attempts), ("code", .str status.code.name)]
  | _ => []

def body (f : Fault) : Json :=
  .ofFields ([("error", .str f.kind), ("message", .str f.message)] ++ f.details)

def response (f : Fault) : Response where
  status := f.httpStatus
  headers := [("content-type", Bytes.ofString "application/json")]
  body := Bytes.ofString f.body.render

def malformed (m : Json.Misread) : Fault :=
  badRequest s!"malformed JSON payload: {m.message}"

end Fault

end Sluice
