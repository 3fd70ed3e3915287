import Sluice.Console

namespace Sluice.Console

-- The number that the system gives an error. It may come with its sign changed.
def errorNumber (code : UInt32) : Nat :=
  if code < 0x80000000 then code.toNat else (0 - code).toNat

-- What an error of the system means for a file that was to be read.
def fileOutcome : IO.Error → Except FileFault (Option Bytes)
  | .noFileOrDirectory .. => .error .missing
  | e@(.inappropriateType _ code _) =>
    match errorNumber code with
    | 20 => .error .notDirectory
    | 21 => .ok none
    | _ => .error (.other (toString e))
  | e@(.invalidArgument _ code _) =>
    if errorNumber code = 36 then .error .nameTooLong else .error (.other (toString e))
  | e => .error (.other (toString e))

def openFile (path : String) : IO (Except FileFault (Option Bytes)) := do
  try
    let contents ← IO.FS.readBinFile path
    return .ok (some contents.toList)
  catch e => return fileOutcome e

def showLines (lines : List String) : IO Unit := do
  for line in lines do
    IO.println line
  (← IO.getStdout).flush

partial def awaitEnd (input : IO.FS.Stream) : IO Unit := do
  if (← input.getLine).isEmpty then return
  awaitEnd input

end Sluice.Console

open Sluice

def main (args : List String) : IO UInt32 := do
  let filter := Console.Filter.ofText (← IO.getEnv "RUST_LOG")
  let path := args.headD Console.defaultPath
  match Console.start path (← Console.openFile path) with
  | .failed events =>
    Console.showLines (filter.lines events)
    return 1
  | .crashed events =>
    Console.showLines (filter.lines events)
    return 101
  | .serving _ events =>
    Console.showLines (filter.lines events)
    Console.awaitEnd (← IO.getStdin)
    Console.showLines (filter.lines (Console.stop .terminate))
    return 0
