import Sluice.Json.Format
import Sluice.Settings.Basic
import Sluice.Yaml.Cursor
import Sluice.Yaml.Format

namespace Sluice

def Code.options : List (String × Code) :=
  Code.all.map fun c => (c.name, c)

namespace Settings.Schema

open Fields

variable {ν ε : Type} (fmt : Format ν ε)

def store (v : ν) : Except ε Store :=
  fmt.oneOf ([.memory, .redis].map fun s => (s.name, s)) v

def reach (v : ν) : Except ε Reach :=
  fmt.oneOf ([.server, .client, .both].map fun r => (r.name, r)) v

def failPolicy (v : ν) : Except ε FailPolicy :=
  fmt.oneOf ([.failClosed, .failOpen].map fun p => (p.name, p)) v

def code (v : ν) : Except ε Code :=
  fmt.oneOf Code.options v

def node : ν → Except ε NodeSettings :=
  fmt.record "NodeConfig" ["address", "weight"] <|
    NodeSettings.mk
      <$> required "address" fmt.text
      <*> withDefault "weight" NodeSettings.defaultWeight fmt.integer

-- A window and a limit, as they stand among the fields of a record.
def quotaFields : Fields ν ε QuotaSettings :=
  QuotaSettings.mk
    <$> required "window_ms" (fmt.natural .word64)
    <*> required "max_requests" (fmt.natural .word32)

def quota : ν → Except ε QuotaSettings :=
  fmt.record "LimitConfig" ["window_ms", "max_requests"] (quotaFields fmt)

def service : ν → Except ε ServiceSettings :=
  fmt.record "ServiceLimitConfig" ["prefix", "window_ms", "max_requests"] <|
    ServiceSettings.mk
      <$> required "prefix" fmt.text
      <*> quotaFields fmt

def businessKey : ν → Except ε BusinessKeySettings :=
  fmt.record "BusinessKeyConfig" ["method", "field", "window_ms", "max_requests"] <|
    BusinessKeySettings.mk
      <$> required "method" fmt.text
      <*> required "field" fmt.text
      <*> quotaFields fmt

def rateLimit : ν → Except ε RateLimitSettings :=
  let d := RateLimitSettings.default
  fmt.record "RateLimitConfig"
      ["store", "redis_url", "key_prefix", "on_error", "apply_to", "global", "services", "business_keys"] <|
    RateLimitSettings.mk
      <$> withDefault "store" d.store (store fmt)
      <*> withDefault "redis_url" d.redisUrl (fmt.optional fmt.text)
      <*> withDefault "key_prefix" d.keyStem fmt.text
      <*> withDefault "on_error" d.onError (failPolicy fmt)
      <*> withDefault "apply_to" d.reach (reach fmt)
      <*> withDefault "global" d.global (fmt.optional (quota fmt))
      <*> withDefault "services" d.services (fmt.list (service fmt))
      <*> withDefault "business_keys" d.businessKeys (fmt.list (businessKey fmt))

def retry : ν → Except ε RetrySettings :=
  let d := RetrySettings.default
  fmt.record "RetryConfig"
      ["max_attempts", "initial_backoff_ms", "max_backoff_ms", "backoff_multiplier", "retryable_codes"] <|
    RetrySettings.mk
      <$> withDefault "max_attempts" d.maxAttempts (fmt.natural .word32)
      <*> withDefault "initial_backoff_ms" d.initialBackoffMs (fmt.natural .word64)
      <*> withDefault "max_backoff_ms" d.maxBackoffMs (fmt.natural .word64)
      <*> withDefault "backoff_multiplier" d.multiplier fmt.double
      <*> withDefault "retryable_codes" d.retryableCodes (fmt.list (code fmt))

def discovery : ν → Except ε DiscoverySettings :=
  let d := DiscoverySettings.default
  fmt.record "DiscoveryConfig" ["lease_ttl_ms", "reap_interval_ms"] <|
    DiscoverySettings.mk
      <$> withDefault "lease_ttl_ms" d.leaseTtlMs (fmt.natural .word64)
      <*> withDefault "reap_interval_ms" d.reapIntervalMs (fmt.natural .word64)

def settings : ν → Except ε Settings :=
  let optional {α : Type} (name : String) (read : ν → Except ε α) : Fields ν ε (Option α) :=
    withDefault name none (fmt.optional read)
  fmt.record "Config"
      ["listen", "nodes", "max_body_size", "connect_timeout_ms", "request_timeout_ms", "pool_idle_timeout_ms",
        "pool_max_idle_per_host", "max_concurrent_requests", "rate_limit", "retry", "discovery"] <|
    Settings.mk
      <$> optional "listen" fmt.text
      <*> withDefault "nodes" [] (fmt.list (node fmt))
      <*> optional "max_body_size" (fmt.natural .word64)
      <*> optional "connect_timeout_ms" (fmt.natural .word64)
      <*> optional "request_timeout_ms" (fmt.natural .word64)
      <*> optional "pool_idle_timeout_ms" (fmt.natural .word64)
      <*> optional "pool_max_idle_per_host" (fmt.natural .size)
      <*> optional "max_concurrent_requests" (fmt.natural .size)
      <*> optional "rate_limit" (rateLimit fmt)
      <*> optional "retry" (retry fmt)
      <*> optional "discovery" (discovery fmt)

end Settings.Schema

namespace Settings

def ofJson (v : Json) : Except Json.Misfit Settings :=
  Schema.settings Json.format v

-- The settings that a YAML document holds; an empty text is a document without settings.
def ofDocument? (d : Yaml.Document) : Option Settings :=
  (Schema.settings d.format (d.root.getD .missing)).toOption

def unparsable : Fault :=
  .config "failed to parse config"

def ofBytes (bytes : Bytes) : Except Fault Settings :=
  match (Yaml.decode? bytes).bind fun text => (Yaml.Document.read text).bind ofDocument? with
  | some settings => .ok settings
  | none => .error unparsable

end Settings

end Sluice
