import Sluice.Files
import Sluice.Server
import Sluice.Settings.Reader

namespace Sluice

-- Loads the settings in a file that was opened; `none` stands for something that cannot be read.
def Settings.load (path : String) (opened : Except FileFault (Option Bytes)) : Except Fault Settings :=
  match opened with
  | .error e => .error (.config s!"failed to open {path}: {e.message}")
  | .ok none => .error Settings.unparsable
  | .ok (some bytes) => Settings.ofBytes bytes

namespace Console

-- The file that is read if none is named.
def defaultPath : String := "./Config.yml"

inductive Level where
  | error
  | warn
  | info
  | debug
  | trace
  deriving DecidableEq, Repr

namespace Level

def name : Level → String
  | error => "ERROR"
  | warn => "WARN"
  | info => "INFO"
  | debug => "DEBUG"
  | trace => "TRACE"

def rank : Level → Nat
  | error => 1
  | warn => 2
  | info => 3
  | debug => 4
  | trace => 5

-- The rank of a level or of `off`, by name in any case or by number.
def rank? (text : String) : Option Nat :=
  match text.toLower with
  | "off" | "0" => some 0
  | "error" | "1" => some 1
  | "warn" | "2" => some 2
  | "info" | "3" => some 3
  | "debug" | "4" => some 4
  | "trace" | "5" => some 5
  | _ => none

end Level

structure Event where
  level   : Level
  target  : String
  message : String
  fields  : List (String × String)

namespace Event

def text (e : Event) : String :=
  s!"{e.level.name} {e.target}: {e.message}" ++ String.join (e.fields.map fun (name, v) => s!" {name}={v}")

end Event

-- What a filter shows of one part of the program, or of all parts.
structure Directive where
  target : String
  rank   : Nat

-- Reads a directive: a level, or a target with its level.
def directive? (text : String) : Option Directive :=
  match text.toList.span (· ≠ '=') with
  | (target, '=' :: level) =>
    (Level.rank? (String.ofList level)).map fun rank => { target := String.ofList target, rank }
  | (level, _) => (Level.rank? (String.ofList level)).map fun rank => { target := "", rank }

abbrev Filter := List Directive

namespace Filter

-- What is shown if nothing else is asked for.
def standard : Filter := [{ target := "", rank := Level.info.rank }]

-- Reads a filter: directives with commas between them.
def ofText (text : Option String) : Filter :=
  match text with
  | none => standard
  | some text =>
    match ((text.splitOn ",").filter (!·.isEmpty)).mapM directive? with
    | none => standard
    | some [] => [{ target := "", rank := Level.error.rank }]
    | some directives => directives

-- Whether an event is shown: the directive for the longest part of its target decides.
def shows (filter : Filter) (e : Event) : Bool :=
  let fitting := filter.filter fun d => d.target.toList.isPrefixOf e.target.toList
  let best := fitting.foldl (fun best d =>
    match best with
    | some b => if b.target.length ≤ d.target.length then some d else some b
    | none => some d) (none : Option Directive)
  best.any fun d => e.level.rank ≤ d.rank

def lines (filter : Filter) (events : List Event) : List String :=
  (events.filter filter.shows).map Event.text

end Filter

-- What comes of an attempt to start.
inductive Startup where
  | failed (events : List Event)
  -- The program breaks down.
  | crashed (events : List Event)
  | serving (server : Server) (events : List Event)

def failure (message : String) (fields : List (String × String)) : Startup :=
  .failed [{ level := .error, target := "turnstile", message, fields }]

def initialised (plan : Plan) : Event where
  level := .info
  target := "turnstile::server"
  message := "gateway initialised"
  fields :=
    [("nodes", toString plan.nodes.length), ("rate_limited", toString plan.rules.isSome),
     ("max_attempts", toString plan.retry.maxAttempts)]

def start (path : String) (opened : Except FileFault (Option Bytes)) : Startup :=
  match Settings.load path opened >>= Settings.check with
  | .error e => failure "invalid configuration" [("error", e.message), ("config", path)]
  | .ok plan =>
    match plan.launch with
    | .refused e => failure "failed to start gateway" [("error", e.message)]
    | .broken => .crashed [initialised plan]
    | .serving server => .serving server
      [initialised plan,
       { level := .info, target := "turnstile", message := "listening"
         fields := [("addr", plan.listen.text)] }]

inductive Signal where
  | terminate
  | interrupt

def Signal.name : Signal → String
  | terminate => "SIGTERM"
  | interrupt => "SIGINT"

def stop (signal : Signal) : List Event :=
  [{ level := .info, target := "turnstile::server"
     message := s!"received {signal.name}, initiating graceful shutdown", fields := [] },
   { level := .info, target := "turnstile::server"
     message := "shutting down, no longer accepting connections", fields := [] }]

-- What a run of the program shows, and its exit code: a server that starts is then stopped.
def run (filter : Filter) (signal : Signal) (startup : Startup) : Nat × List String :=
  match startup with
  | .failed events => (1, filter.lines events)
  | .crashed events => (101, filter.lines events)
  | .serving _ events => (0, filter.lines (events ++ stop signal))

end Console

end Sluice
