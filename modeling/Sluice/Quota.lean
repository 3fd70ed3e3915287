import Sluice.Duration
import Sluice.Fault

namespace Sluice

-- A window and how many requests may fall into it.
structure Quota where
  window : Duration
  limit  : Nat
  window_pos : 0 < window.nanos
  limit_pos  : 0 < limit

namespace Quota

def make (window : Duration) (limit : Nat) : Except Fault Quota :=
  if h : window.nanos = 0 then .error (.config "rate limit window must be non-zero")
  else if h' : limit = 0 then .error (.config "rate limit max_requests must be non-zero")
  else .ok { window, limit, window_pos := Nat.pos_of_ne_zero h, limit_pos := Nat.pos_of_ne_zero h' }

-- Times and windows in milliseconds stop here.
def timeLimit : Nat := UInt64.size - 1

def windowMs (q : Quota) : Nat :=
  min q.window.millis timeLimit

-- When a request made at `t` no longer counts.
def expiry (q : Quota) (t : Nat) : Nat :=
  min (t + q.windowMs) timeLimit

end Quota

-- The requests of each key that were let through, oldest first.
structure SlidingWindow where
  quota : Quota
  logs  : List (String × List Nat)

namespace SlidingWindow

def make (quota : Quota) : SlidingWindow :=
  { quota, logs := [] }

def log (w : SlidingWindow) (key : String) : List Nat :=
  (w.logs.lookup key).getD []

-- Puts the log of a key in place of the one it had.
def record (key : String) (log : List Nat) : List (String × List Nat) → List (String × List Nat)
  | [] => [(key, log)]
  | (k, l) :: logs => if k = key then (key, log) :: logs else (k, l) :: record key log logs

-- Asks for one request of that key at that time. Tells whether it is over the quota.
def ask (w : SlidingWindow) (key : String) (now : Nat) : Bool × SlidingWindow :=
  let live := (w.log key).dropWhile (w.quota.expiry · ≤ now)
  if w.quota.limit ≤ live.length then (true, { w with logs := record key live w.logs })
  else (false, { w with logs := record key (live ++ [now]) w.logs })

-- Forgets the keys whose last request no longer counts.
def sweep (w : SlidingWindow) (now : Nat) : SlidingWindow :=
  { w with logs := w.logs.filter fun (_, log) =>
      match log.getLast? with
      | some t => now < w.quota.expiry t
      | none => false }

def trackedKeys (w : SlidingWindow) : Nat :=
  w.logs.length

end SlidingWindow

end Sluice
