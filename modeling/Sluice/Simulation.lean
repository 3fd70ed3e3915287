import Sluice.Gateway
import Sluice.Pool
import Sluice.Quota

namespace Sluice

-- Bytes as a JSON value: their text, or their hexadecimal digits if they are not UTF-8.
def Bytes.toJson (bs : Bytes) : Json :=
  match bs.toString? with
  | some s => .str s
  | none =>
    .ofFields [("hex", .str (String.ofList (bs.flatMap fun b =>
      [Json.hexDigit (b.toNat / 16), Json.hexDigit (b.toNat % 16)])))]

-- Headers as a JSON value, in ascending order of their names.
def Headers.toJson (hs : Headers) : Json :=
  .arr (hs.sorted.map fun (name, v) => .arr [.str name, v.toJson])

namespace Simulation

inductive Content where
  -- The address of the node.
  | address
  -- The call that the node got.
  | echo
  | fixed (bs : Bytes)

-- What a node does with one call.
inductive Cue where
  | hang
  | fail (delay : Duration) (status : Status)
  | reply (delay : Duration) (status : Nat) (headers : Headers) (content : Content)

-- What a node does that has no script.
def Cue.plain : Cue :=
  .reply .zero 200 [] .address

def Content.bytes (content : Content) (node : Endpoint) (call : Call) : Bytes :=
  match content with
  | address => Bytes.ofString node.address
  | fixed bs => bs
  | echo =>
    Bytes.ofString (Json.ofFields
      [("method", .str call.method), ("payload", call.payload), ("metadata", call.metadata.toJson)]).render

-- How the call arrives at a node that acts on a cue.
def Cue.arrival (cue : Cue) (node : Endpoint) (call : Call) : Arrival :=
  match cue with
  | hang => .never
  | fail delay status => .after delay (.error status)
  | reply delay status headers content =>
    .after delay (.ok { status, headers, body := content.bytes node call })

-- The first of some entries, of which the last is never used up.
def takeCue : List Cue → Cue × List Cue
  | [] => (.plain, [])
  | [cue] => (cue, [cue])
  | cue :: cues => (cue, cues)

-- One script for all nodes, in the order in which they are called, or one for each node.
inductive Script where
  | shared (cues : List Cue)
  | perNode (cues : List (String × List Cue))

def Script.next (script : Script) (address : String) : Cue × Script :=
  match script with
  | shared cues =>
    let (cue, cues) := takeCue cues
    (cue, shared cues)
  | perNode all =>
    let (cue, _) := takeCue ((all.lookup address).getD [])
    (cue, perNode (all.map fun (a, cues) => if a = address then (a, (takeCue cues).2) else (a, cues)))

-- A limiter with answers prepared, of which the last is never used up, or one with a window.
inductive Gate where
  | prepared (verdicts : List Verdict)
  | window (w : SlidingWindow)

def Gate.ask (gate : Gate) (key : String) (now : Instant) : Verdict × Gate :=
  match gate with
  | prepared [] => (.allow, gate)
  | prepared [v] => (v, gate)
  | prepared (v :: vs) => (v, prepared vs)
  | window w =>
    let (isOver, w) := w.ask key (Instant.toMillis now)
    (if isOver then .deny else .allow, window w)

end Simulation

structure Simulation where
  pool   : Pool
  script : Simulation.Script
  gates  : List (String × Simulation.Gate)
  -- The limiters that were asked, with the key and the answer, the latest first.
  asked  : List (String × String × Verdict)

namespace Simulation

def send (node : Endpoint) (call : Call) (_ : Instant) (s : Simulation) : Arrival × Simulation :=
  let (cue, script) := s.script.next node.address
  (cue.arrival node call, { s with script })

def ask (now : Instant) (name key : String) (s : Simulation) : Verdict × Simulation :=
  match s.gates.lookup name with
  | none => (.allow, s)
  | some gate =>
    let (verdict, gate) := gate.ask key now
    (verdict,
      { s with
        gates := s.gates.map fun (n, g) => if n = name then (n, gate) else (n, g)
        asked := (name, key, verdict) :: s.asked })

def environment : Environment String Simulation where
  pick s :=
    let (node, pool) := s.pool.advance
    (node, { s with pool })
  send := send
  ask := ask

end Simulation

end Sluice
