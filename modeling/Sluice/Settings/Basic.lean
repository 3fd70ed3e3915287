import Sluice.Admission
import Sluice.Code

namespace Sluice

structure NodeSettings where
  address : String
  weight  : Int

-- A node's share where none is given.
def NodeSettings.defaultWeight : Int := 1

-- Where the state of quotas is kept.
inductive Store where
  | memory
  | redis
  deriving DecidableEq, Repr

def Store.name : Store → String
  | memory => "memory"
  | redis => "redis"

-- Where calls are checked: as they arrive, as they leave, or both.
inductive Reach where
  | server
  | client
  | both
  deriving DecidableEq, Repr

namespace Reach

def name : Reach → String
  | server => "server"
  | client => "client"
  | both => "both"

-- Whether calls are checked as they arrive.
def coversServer : Reach → Bool
  | client => false
  | _ => true

-- Whether calls are checked as they leave.
def coversClient : Reach → Bool
  | server => false
  | _ => true

end Reach

structure QuotaSettings where
  windowMs    : Nat
  maxRequests : Nat

structure ServiceSettings where
  -- How the methods of the service start.
  stem  : String
  quota : QuotaSettings

structure BusinessKeySettings where
  method : String
  field  : String
  quota  : QuotaSettings

structure RateLimitSettings where
  store        : Store
  redisUrl     : Option String
  -- What every key starts with.
  keyStem      : String
  onError      : FailPolicy
  reach        : Reach
  global       : Option QuotaSettings
  services     : List ServiceSettings
  businessKeys : List BusinessKeySettings

def RateLimitSettings.default : RateLimitSettings where
  store := .memory
  redisUrl := none
  keyStem := "turnstile:"
  onError := .failClosed
  reach := .server
  global := none
  services := []
  businessKeys := []

structure RetrySettings where
  maxAttempts      : Nat
  initialBackoffMs : Nat
  maxBackoffMs     : Nat
  multiplier       : Float
  retryableCodes   : List Code

def RetrySettings.default : RetrySettings where
  maxAttempts := 4
  initialBackoffMs := 10
  maxBackoffMs := 100
  multiplier := 2
  retryableCodes := [.unavailable]

structure DiscoverySettings where
  leaseTtlMs     : Nat
  reapIntervalMs : Nat

def DiscoverySettings.default : DiscoverySettings where
  leaseTtlMs := 5000
  reapIntervalMs := 1000

structure Settings where
  listen                : Option String
  nodes                 : List NodeSettings
  maxBodySize           : Option Nat
  connectTimeoutMs      : Option Nat
  requestTimeoutMs      : Option Nat
  poolIdleTimeoutMs     : Option Nat
  poolMaxIdlePerHost    : Option Nat
  maxConcurrentRequests : Option Nat
  rateLimit             : Option RateLimitSettings
  retry                 : Option RetrySettings
  discovery             : Option DiscoverySettings

end Sluice
