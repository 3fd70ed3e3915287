import Sluice.Quota
import Sluice.Redis.Url
import Sluice.Settings.Basic
import Sluice.Text.Quoted

namespace Sluice

-- Where limiters keep their windows.
inductive Shelf where
  | memory
  | redis (url : String)
  deriving DecidableEq, Repr

structure ServiceRule where
  stem  : String
  quota : Quota

structure BusinessKeyRule where
  -- The method, with a slash in front.
  method : String
  field  : String
  quota  : Quota

structure Rules where
  shelf        : Shelf
  keyStem      : String
  onError      : FailPolicy
  reach        : Reach
  global       : Option Quota
  services     : List ServiceRule
  businessKeys : List BusinessKeyRule

def QuotaSettings.check (q : QuotaSettings) : Except Fault Quota :=
  Quota.make (.ofMillis q.windowMs) q.maxRequests

def ServiceSettings.check (s : ServiceSettings) : Except Fault ServiceRule := do
  if s.stem.isEmpty then throw (.config "service limit prefix must not be empty")
  return { stem := s.stem, quota := ← s.quota.check }

def BusinessKeySettings.check (b : BusinessKeySettings) : Except Fault BusinessKeyRule := do
  if b.field.isEmpty then throw (.config s!"business key field for {b.method} must not be empty")
  return { method := Call.rooted b.method, field := b.field, quota := ← b.quota.check }

-- The first text that stands behind another one equal to it.
def firstRepeated? (texts : List String) : Option String :=
  go [] texts
where
  go (seen : List String) : List String → Option String
    | [] => none
    | t :: texts => if seen.contains t then some t else go (t :: seen) texts

namespace RateLimitSettings

-- Where the limiters keep their windows; the address of a Redis server must then be given.
def shelf (r : RateLimitSettings) : Except Fault Shelf :=
  match r.store with
  | .memory => .ok .memory
  | .redis =>
    match r.redisUrl with
    | some url => if url.isEmpty then missing else .ok (.redis url)
    | none => missing
where
  missing : Except Fault Shelf := .error (.config "rate_limit.redis_url is required for the redis store")

-- The rules that settings ask for.
def check (r : RateLimitSettings) : Except Fault Rules := do
  let shelf ← r.shelf
  let global ← r.global.mapM QuotaSettings.check
  let services ← r.services.mapM ServiceSettings.check
  if let some stem := firstRepeated? (services.map (·.stem)) then
    throw (.config s!"service limit prefix {stem} is configured more than once")
  let businessKeys ← r.businessKeys.mapM BusinessKeySettings.check
  if let some method := firstRepeated? (businessKeys.map (·.method)) then
    throw (.config s!"business key limit for {method} is configured more than once")
  return { shelf, keyStem := r.keyStem, onError := r.onError, reach := r.reach, global, services, businessKeys }

end RateLimitSettings

structure Limiter where
  -- Its place among all limiters.
  slot    : Nat
  quota   : Quota
  -- What the keys start with that are kept in a shared store.
  keyStem : String

-- The key under which a shared store counts.
def Limiter.sharedKey (l : Limiter) (key : String) : String :=
  l.keyStem ++ key

-- Makes a limiter, which takes the place behind those that were made before.
def Limiter.make (quota : Quota) (keyStem : String) (made : List Limiter) : Limiter × List Limiter :=
  let l : Limiter := { slot := made.length, quota, keyStem }
  (l, made ++ [l])

-- The chains for both sides, and all limiters in the order in which they were made.
structure Admission where
  server   : Chain Limiter
  client   : Chain Limiter
  limiters : List Limiter

def Admission.permissive : Admission :=
  { server := .permissive, client := .permissive, limiters := [] }

namespace Rules

-- The checks of one side, each with its quota: first all calls, then services, then business keys.
def scopes (r : Rules) : List (Scope × Quota) :=
  (r.global.toList.map fun q => (.everything "global", q)) ++
    (r.services.map fun s => (.service s.stem ("service:" ++ s.stem), s.quota)) ++
    (r.businessKeys.map fun b => (.businessKey b.method b.field, b.quota))

-- Makes the limiters for these checks one after another.
def makeChecks (keyStem : String) : List (Scope × Quota) → List Limiter → List (Check Limiter) × List Limiter
  | [], made => ([], made)
  | (scope, quota) :: scopes, made =>
    let (limiter, made) := Limiter.make quota keyStem made
    let (checks, made) := makeChecks keyStem scopes made
    ({ scope, limiter } :: checks, made)

-- The chain of one side, whose limiters are made behind those of `made`.
def chain (r : Rules) (side : String) (made : List Limiter) : Chain Limiter × List Limiter :=
  let (checks, made) := makeChecks (r.keyStem ++ side ++ ":") r.scopes made
  ({ checks, onError := r.onError }, made)

-- The chains of both sides. A side that is not covered admits every call.
def admission (r : Rules) : Admission :=
  let (server, made) := if r.reach.coversServer then r.chain "server" [] else (.permissive, [])
  let (client, made) := if r.reach.coversClient then r.chain "client" made else (.permissive, made)
  { server, client, limiters := made }

-- The chains, once the store is known to be usable.
def build (r : Rules) : Except Fault Admission :=
  match r.shelf with
  | .memory => .ok r.admission
  | .redis url =>
    match Redis.Url.check url with
    | .ok () => .ok r.admission
    | .error e => .error (.config s!"invalid redis url {quoted url}: {e.message}- InvalidClientConfig")

-- The windows that are kept in memory, one for each limiter that was made.
def windows (r : Rules) : List SlidingWindow :=
  match r.shelf with
  | .memory => r.admission.limiters.map fun l => .make l.quota
  | .redis _ => []

end Rules

-- Asks a limiter that keeps its window in memory.
def Limiter.ask (l : Limiter) (key : String) (now : Nat) (windows : List SlidingWindow) :
    Verdict × List SlidingWindow :=
  match windows[l.slot]? with
  | none => (.fail "no window", windows)
  | some w =>
    let (isOver, w) := w.ask key now
    (if isOver then .deny else .allow, windows.set l.slot w)

end Sluice
