import Sluice.Admission
import Sluice.Retry.Invocation
import Sluice.Json.Reader
import Sluice.Text.Basic
import Sluice.Uri

namespace Sluice

-- The world around a client or a gateway: its nodes, and the limiters that it asks.
structure Environment (ι σ : Type) extends Surroundings σ where
  ask : Instant → ι → String → σ → Verdict × σ

structure Client (ι : Type) where
  chain   : Chain ι
  policy  : RetryPolicy
  timeout : Duration

namespace Invocation

variable {σ : Type}

-- A call that ended before any node was chosen.
def refused (e : Fault) (now : Instant) (s : σ) : Invocation σ :=
  { result := .error e, attempts := [], picks := 0, finish := now, state := s }

end Invocation

namespace Client

variable {ι σ : Type}

-- A call first passes the client's own chain, and only then is it tried on the nodes.
def perform (client : Client ι) (env : Environment ι σ) (call : Call) (cancel : Cancellation) (now : Instant)
    (s : σ) : Invocation σ :=
  match client.chain.screen (env.ask now) call s with
  | (.error e, s) => .refused e now s
  | (.ok (), s) =>
    .run client.policy env.toSurroundings call (now + client.timeout.nanos) cancel now s

end Client

-- A piece of a body as it comes in.
inductive Frame where
  | data (bs : Bytes)
  | broken (reason : String)

structure Request where
  method  : String
  path    : String
  headers : Headers
  frames  : List Frame

namespace Headers

-- The headers that belong to one connection only.
def hopByHop : List String :=
  ["connection", "keep-alive", "proxy-authenticate", "proxy-authorization", "proxy-connection", "te",
    "trailer", "trailers", "transfer-encoding", "upgrade"]

def isHopByHop (name : String) : Bool :=
  hopByHop.contains name

end Headers

namespace Request

-- The length that the request declares for its body, where that is a number.
def declaredLength? (req : Request) : Option Nat :=
  ((req.headers.value? "content-length").bind Headers.visible?).bind fun text =>
    Uri.number? (UInt64.size - 1) (trimBlank text)

-- The whole body, unless a piece of it is broken or goes beyond the limit.
def readBody (limit : Nat) (frames : List Frame) : Except Fault Bytes :=
  go limit frames
where
  go (room : Nat) : List Frame → Except Fault Bytes
    | [] => .ok []
    | .broken reason :: _ => .error (.badRequest s!"failed to read request body: {reason}")
    | .data bs :: frames =>
      if room < bs.length then .error (.bodyTooLarge limit)
      else (go (room - bs.length) frames).map (bs ++ ·)

-- The payload in a body: JSON, or nothing at all.
def readPayload (body : Bytes) : Except Fault Json :=
  if body.isEmpty then .ok .null
  else
    match Json.read body with
    | .ok v => .ok v
    | .error m => .error (.malformed m)

def readCall (req : Request) (limit : Nat) : Except Fault Call := do
  if req.path.toList.all (· = '/') then throw (.badRequest "request path must name the method")
  let body ← readBody limit req.frames
  let payload ← readPayload body
  return .make req.path payload req.headers

-- Looks at a request up to the point where its call is built.
def accept (req : Request) (limit : Nat) : Except Fault Call := do
  if req.method ≠ "POST" then throw .methodNotAllowed
  if req.declaredLength?.any (limit < ·) then throw (.bodyTooLarge limit)
  req.readCall limit

end Request

structure Gateway (ι : Type) where
  chain   : Chain ι
  client  : Client ι
  maxBody : Nat

namespace Gateway

variable {ι σ : Type}

-- A node's reply as the client gets it.
def relay (reply : Response) : Response :=
  { reply with headers := reply.headers.filter fun (name, _) =>
      !Headers.isHopByHop name && name ≠ "content-length" }

-- A request is looked at in a fixed order: its method, the length it declares, its path, its body, the JSON
-- in it, the gateway's own chain, and last the client's chain and the nodes. The first stage that refuses it
-- decides the answer.
def handle (gw : Gateway ι) (env : Environment ι σ) (req : Request) (cancel : Cancellation) (now : Instant)
    (s : σ) : Invocation σ :=
  match req.accept gw.maxBody with
  | .error e => .refused e now s
  | .ok call =>
    match gw.chain.screen (env.ask now) call s with
    | (.error e, s) => .refused e now s
    | (.ok (), s) =>
      let run := gw.client.perform env call cancel now s
      { run with result := run.result.map relay }

def respond : Except Fault Response → Response
  | .ok r => r
  | .error e => e.response

end Gateway

end Sluice
