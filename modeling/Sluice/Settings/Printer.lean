import Sluice.Json.Basic
import Sluice.Settings.Basic

namespace Sluice

-- A value that may be missing.
def Json.ofOption {α : Type} (f : α → Json) (a : Option α) : Json :=
  (a.map f).getD .null

-- A double; only finite ones can be written.
def Json.ofFloat (f : Float) : Json :=
  if f.isFinite then .float f else .null

def NodeSettings.toJson (n : NodeSettings) : Json :=
  .ofFields [("address", .str n.address), ("weight", .int n.weight)]

namespace QuotaSettings

def fields (q : QuotaSettings) : List (String × Json) :=
  [("window_ms", .int q.windowMs), ("max_requests", .int q.maxRequests)]

def toJson (q : QuotaSettings) : Json := .ofFields q.fields

end QuotaSettings

def ServiceSettings.toJson (s : ServiceSettings) : Json :=
  .ofFields (("prefix", .str s.stem) :: s.quota.fields)

def BusinessKeySettings.toJson (b : BusinessKeySettings) : Json :=
  .ofFields ([("method", .str b.method), ("field", .str b.field)] ++ b.quota.fields)

def RateLimitSettings.toJson (r : RateLimitSettings) : Json :=
  .ofFields
    [("store", .str r.store.name),
     ("redis_url", .ofOption .str r.redisUrl),
     ("key_prefix", .str r.keyStem),
     ("on_error", .str r.onError.name),
     ("apply_to", .str r.reach.name),
     ("global", .ofOption QuotaSettings.toJson r.global),
     ("services", .arr (r.services.map ServiceSettings.toJson)),
     ("business_keys", .arr (r.businessKeys.map BusinessKeySettings.toJson))]

def RetrySettings.toJson (r : RetrySettings) : Json :=
  .ofFields
    [("max_attempts", .int r.maxAttempts),
     ("initial_backoff_ms", .int r.initialBackoffMs),
     ("max_backoff_ms", .int r.maxBackoffMs),
     ("backoff_multiplier", .ofFloat r.multiplier),
     ("retryable_codes", .arr (r.retryableCodes.map fun c => .str c.name))]

def DiscoverySettings.toJson (d : DiscoverySettings) : Json :=
  .ofFields [("lease_ttl_ms", .int d.leaseTtlMs), ("reap_interval_ms", .int d.reapIntervalMs)]

def Settings.toJson (s : Settings) : Json :=
  let number (n : Option Nat) : Json := .ofOption (fun n : Nat => .int n) n
  .ofFields
    [("listen", .ofOption .str s.listen),
     ("nodes", .arr (s.nodes.map NodeSettings.toJson)),
     ("max_body_size", number s.maxBodySize),
     ("connect_timeout_ms", number s.connectTimeoutMs),
     ("request_timeout_ms", number s.requestTimeoutMs),
     ("pool_idle_timeout_ms", number s.poolIdleTimeoutMs),
     ("pool_max_idle_per_host", number s.poolMaxIdlePerHost),
     ("max_concurrent_requests", number s.maxConcurrentRequests),
     ("rate_limit", .ofOption RateLimitSettings.toJson s.rateLimit),
     ("retry", .ofOption RetrySettings.toJson s.retry),
     ("discovery", .ofOption DiscoverySettings.toJson s.discovery)]

end Sluice
