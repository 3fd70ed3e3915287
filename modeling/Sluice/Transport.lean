import Sluice.Gateway
import Sluice.Text.Quoted
import Sluice.Text.Basic

namespace Sluice

-- A request as it goes out to a node.
structure Outgoing where
  target  : Uri
  headers : Headers
  body    : Bytes
  deriving DecidableEq, Repr

-- What comes back over a connection to a node.
inductive Exchange where
  | unreachable
  -- The connection ended before a response began, or what came was none.
  | noResponse
  -- The response began, but its body did not arrive.
  | truncated
  | complete (response : Response)

-- What a connection does with a request: something comes of it after that long, or nothing ever does.
inductive Delivery where
  | after (delay : Duration) (exchange : Exchange)
  | never

namespace Transport

-- Where a method of a node lives: below the path of the node's own address.
def callUri (node : Endpoint) (method : String) : Except String Uri :=
  let base := (node.target.path.reverse.dropWhile (· = '/')).reverse
  let name := method.toList.dropWhile (· = '/')
  match PathAndQuery.parse (base ++ '/' :: name) with
  | .ok target => .ok ⟨some node.scheme, some node.authority, target⟩
  | .error e => .error s!"invalid method path {quoted (String.ofList name)}: {e.message}"

-- The characters of a header name, as they count: letters in lower case.
def headerChar? (c : Char) : Option Char :=
  if c.isAlphanum then some c.toLower
  else if "!#$%&'*+-.^_\x60|~".toList.contains c then some c
  else none

def headerName? (cs : List Char) : Option String :=
  if cs.isEmpty then none else (cs.mapM headerChar?).map String.ofList

-- The headers that a message itself declares to belong to its connection.
def connectionNames (hs : Headers) : List String :=
  ((hs.values "connection").filterMap Headers.visible?).flatMap fun text =>
    (splitAtEach ',' text).filterMap fun part => headerName? (trimBlank part)

-- Whether a header of the message stays behind when the message is passed on to a node.
def isDropped (hs : Headers) (name : String) : Bool :=
  Headers.isHopByHop name || ["host", "content-length", "content-type"].contains name ||
    (connectionNames hs).contains name

-- The headers of a call that are passed on to a node.
def forwarded (hs : Headers) : Headers :=
  hs.filter fun (name, _) => !isDropped hs name

def outgoingHeaders (hs : Headers) : Headers :=
  forwarded hs ++ [("content-type", Bytes.ofString "application/json")]

def request (node : Endpoint) (call : Call) : Except Status Outgoing :=
  match callUri node call.method with
  | .error e => .error ⟨.invalidArgument, e⟩
  | .ok target =>
    .ok { target, headers := outgoingHeaders call.metadata, body := Bytes.ofString call.payload.render }

def reason? : Nat → Option String
  | 100 => "Continue" | 101 => "Switching Protocols" | 102 => "Processing" | 103 => "Early Hints"
  | 200 => "OK" | 201 => "Created" | 202 => "Accepted" | 203 => "Non Authoritative Information"
  | 204 => "No Content" | 205 => "Reset Content" | 206 => "Partial Content" | 207 => "Multi-Status"
  | 208 => "Already Reported" | 226 => "IM Used" | 300 => "Multiple Choices" | 301 => "Moved Permanently"
  | 302 => "Found" | 303 => "See Other" | 304 => "Not Modified" | 305 => "Use Proxy"
  | 307 => "Temporary Redirect" | 308 => "Permanent Redirect" | 400 => "Bad Request" | 401 => "Unauthorized"
  | 402 => "Payment Required" | 403 => "Forbidden" | 404 => "Not Found" | 405 => "Method Not Allowed"
  | 406 => "Not Acceptable" | 407 => "Proxy Authentication Required" | 408 => "Request Timeout"
  | 409 => "Conflict" | 410 => "Gone" | 411 => "Length Required" | 412 => "Precondition Failed"
  | 413 => "Payload Too Large" | 414 => "URI Too Long" | 415 => "Unsupported Media Type"
  | 416 => "Range Not Satisfiable" | 417 => "Expectation Failed" | 418 => "I'm a teapot"
  | 421 => "Misdirected Request" | 422 => "Unprocessable Entity" | 423 => "Locked"
  | 424 => "Failed Dependency" | 425 => "Too Early" | 426 => "Upgrade Required"
  | 428 => "Precondition Required" | 429 => "Too Many Requests" | 431 => "Request Header Fields Too Large"
  | 451 => "Unavailable For Legal Reasons" | 500 => "Internal Server Error" | 501 => "Not Implemented"
  | 502 => "Bad Gateway" | 503 => "Service Unavailable" | 504 => "Gateway Timeout"
  | 505 => "HTTP Version Not Supported" | 506 => "Variant Also Negotiates" | 507 => "Insufficient Storage"
  | 508 => "Loop Detected" | 510 => "Not Extended" | 511 => "Network Authentication Required"
  | _ => none

def statusText (status : Nat) : String :=
  s!"{status} " ++ (reason? status).getD "<unknown status code>"

-- How many bytes of an error body are quoted.
def quoteLimit : Nat := 512

-- The part of an error body that is quoted: trimmed, and cut where a character ends.
def excerpt (body : Bytes) : Bytes :=
  let text := Utf8.encode (trimBlank (Utf8.decodeLossy body))
  text.take (Utf8.backUp text (min text.length quoteLimit))

-- What is said of an answer that is no success.
def errorMessage (node : Endpoint) (status : Nat) (body : Bytes) : String :=
  let text := excerpt body
  if text.isEmpty then s!"{node.address} answered {statusText status}"
  else s!"{node.address} answered {statusText status}: " ++ String.ofList (Utf8.decodeLossy text)

-- What an exchange with a node means for the call.
def outcome (node : Endpoint) : Exchange → Except Status Response
  | .unreachable => .error ⟨.unavailable, s!"{node.address}: client error (Connect)"⟩
  | .noResponse => .error ⟨.unavailable, s!"{node.address}: client error (SendRequest)"⟩
  | .truncated =>
    .error ⟨.unavailable, s!"{node.address}: failed to read response: error reading a body from connection"⟩
  | .complete r =>
    match Code.ofHttp r.status with
    | .ok => .ok r
    | code => .error ⟨code, errorMessage node r.status r.body⟩

-- Sends a call to a node over a connection that behaves as `connection` says.
def dispatch (connection : Endpoint → Outgoing → Exchange) (node : Endpoint) (call : Call) :
    Except Status Response :=
  match request node call with
  | .error status => .error status
  | .ok out => outcome node (connection node out)

variable {ι σ : Type}

-- How a call arrives at a node over a connection. A call that makes no request is not sent at all.
def send (connection : Endpoint → Outgoing → Instant → σ → Delivery × σ) (node : Endpoint) (call : Call)
    (now : Instant) (s : σ) : Arrival × σ :=
  match request node call with
  | .error status => (.after .zero (.error status), s)
  | .ok out =>
    match connection node out now s with
    | (.after delay exchange, s) => (.after delay (outcome node exchange), s)
    | (.never, s) => (.never, s)

-- Nodes that are reached over connections.
def surroundings (pick : σ → Option Endpoint × σ)
    (connection : Endpoint → Outgoing → Instant → σ → Delivery × σ) : Surroundings σ :=
  { pick, send := send connection }

-- The world of a gateway that reaches its nodes so.
def environment (pick : σ → Option Endpoint × σ) (ask : Instant → ι → String → σ → Verdict × σ)
    (connection : Endpoint → Outgoing → Instant → σ → Delivery × σ) : Environment ι σ :=
  { surroundings pick connection with ask }

end Transport

end Sluice
