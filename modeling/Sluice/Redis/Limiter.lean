import Sluice.Rules

namespace Sluice.Redis

-- A question to the server: the key, the window in milliseconds, and how many requests may fall into
-- it.
structure Command where
  key      : String
  windowMs : Nat
  limit    : Nat
  deriving DecidableEq, Repr

def command (l : Limiter) (key : String) : Command :=
  { key := l.sharedKey key, windowMs := l.quota.windowMs, limit := l.quota.limit }

inductive Reply where
  | nil
  | integer (i : Int)
  | text (s : String)
  -- The short answer that all is well.
  | okay
  | array
  | refused (kind : String) (message : String)
  deriving DecidableEq, Repr

-- Why a reply that is no number cannot be used.
def incompatible (reason shown : String) : String :=
  s!"redis: Response was of incompatible type - TypeError: {quoted reason} (response was {shown})"

-- What the server's reply means for the request.
def verdict : Reply → Verdict
  | .integer i => if i = 0 then .allow else .deny
  | .text s =>
    match integer64? s.toList with
    | some i => if i = 0 then .allow else .deny
    | none => .fail (incompatible "Could not convert from string." s!"bulk-string('{quoted s}')")
  | .nil => .fail (incompatible "Response type not convertible to numeric." "nil")
  | .okay => .fail (incompatible "Response type not convertible to numeric." "ok")
  | .array => .fail (incompatible "Response type not convertible to numeric." "array([])")
  | .refused "ERR" message =>
    .fail s!"redis: An error was signalled by the server - ResponseError: {message}"
  | .refused kind message => .fail s!"redis: {kind}: {message}"

-- Asks a limiter, over a connection that takes a state along.
def ask {σ : Type} (send : Command → σ → Reply × σ) (l : Limiter) (key : String) (s : σ) : Verdict × σ :=
  let (reply, s) := send (command l key) s
  (verdict reply, s)

end Sluice.Redis
