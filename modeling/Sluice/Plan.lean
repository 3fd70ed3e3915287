import Sluice.Pool
import Sluice.Retry.Policy
import Sluice.Rules
import Sluice.SocketAddress

namespace Sluice

structure Plan where
  listen         : SocketAddress
  nodes          : List Endpoint
  maxBodySize    : Nat
  -- How long a call may take, with all its attempts.
  requestTimeout : Duration
  connectTimeout : Duration
  idleTimeout    : Duration
  maxIdlePerHost : Nat
  maxConcurrent  : Nat
  -- Without rules every call is admitted.
  rules          : Option Rules
  retry          : RetryPolicy
  leaseTtl       : Duration
  reapInterval   : Duration

def RetrySettings.check (r : RetrySettings) : Except Fault RetryPolicy :=
  RetryPolicy.make r.maxAttempts (.ofMillis r.initialBackoffMs) (.ofMillis r.maxBackoffMs) r.multiplier
    r.retryableCodes

namespace Plan

def defaultListen : String := "127.0.0.1:8100"
def defaultMaxBodySize : Nat := 1024 * 1024
def defaultRequestTimeoutMs : Nat := 10000
def defaultConnectTimeoutMs : Nat := 5000
def defaultIdleTimeoutMs : Nat := 60000
def defaultMaxIdlePerHost : Nat := 32
def defaultMaxConcurrent : Nat := 1000

end Plan

namespace Settings

def checkListen (s : Settings) : Except Fault SocketAddress :=
  let text := s.listen.getD Plan.defaultListen
  match SocketAddress.parse? text with
  | some a => .ok a
  | none => .error (.config s!"invalid listen address \"{text}\": invalid socket address syntax")

-- The checks are made in a fixed order, and the first that fails is the one that is reported.
def check (s : Settings) : Except Fault Plan := do
  if s.nodes.isEmpty then throw (.config "at least one node must be configured")
  let listen ← s.checkListen
  let nodes ← s.nodes.mapM fun n => Endpoint.make n.address n.weight
  let requestTimeout := Duration.ofMillis (s.requestTimeoutMs.getD Plan.defaultRequestTimeoutMs)
  if requestTimeout = .zero then throw (.config "request_timeout_ms must be non-zero")
  let maxConcurrent := s.maxConcurrentRequests.getD Plan.defaultMaxConcurrent
  if maxConcurrent = 0 then throw (.config "max_concurrent_requests must be non-zero")
  let rules ← s.rateLimit.mapM RateLimitSettings.check
  let retry ← (s.retry.getD .default).check
  let discovery := s.discovery.getD .default
  if discovery.leaseTtlMs = 0 || discovery.reapIntervalMs = 0 then
    throw (.config "discovery lease_ttl_ms and reap_interval_ms must be non-zero")
  return {
      listen, nodes, requestTimeout, maxConcurrent, rules, retry
      maxBodySize := s.maxBodySize.getD Plan.defaultMaxBodySize
      connectTimeout := .ofMillis (s.connectTimeoutMs.getD Plan.defaultConnectTimeoutMs)
      idleTimeout := .ofMillis (s.poolIdleTimeoutMs.getD Plan.defaultIdleTimeoutMs)
      maxIdlePerHost := s.poolMaxIdlePerHost.getD Plan.defaultMaxIdlePerHost
      leaseTtl := .ofMillis discovery.leaseTtlMs
      reapInterval := .ofMillis discovery.reapIntervalMs }

end Settings

end Sluice
