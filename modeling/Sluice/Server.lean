import Sluice.Directory
import Sluice.Gateway
import Sluice.Plan

namespace Sluice

structure Server where
  gateway       : Gateway Limiter
  directory     : Directory
  -- The windows of the limiters that keep theirs in memory.
  windows       : List SlidingWindow
  -- How often leases that have run out are looked for.
  reapInterval  : Duration
  maxConcurrent : Nat

-- How many requests under way can be counted, in 64 bits of which three are set aside.
def Server.countLimit : Nat := UInt64.size / 8 - 1

-- What comes of an attempt to start a server.
inductive Launch where
  | refused (fault : Fault)
  -- The program breaks down: more requests were to be let in at once than can be counted.
  | broken
  | serving (server : Server)

namespace Plan

-- The server that a plan describes.
def start (plan : Plan) : Except Fault Server := do
  let pool ← Pool.ofEndpoints plan.nodes
  let admission ← (plan.rules.map Rules.build).getD (.ok .permissive)
  let client : Client Limiter := { chain := admission.client, policy := plan.retry, timeout := plan.requestTimeout }
  return {
    gateway := { chain := admission.server, client, maxBody := plan.maxBodySize }
    directory := .make pool plan.leaseTtl
    windows := (plan.rules.map Rules.windows).getD []
    reapInterval := plan.reapInterval
    maxConcurrent := plan.maxConcurrent }

-- Starts the server that a plan describes.
def launch (plan : Plan) : Launch :=
  match plan.start with
  | .error e => .refused e
  | .ok server => if server.maxConcurrent ≤ Server.countLimit then .serving server else .broken

end Plan

end Sluice
