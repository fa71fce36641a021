import Courier.CommandLine.Outcome

/-!
# The command line

Reads the words and the configuration file, runs the command on a machine without a network, and
prints what it comes to.
-/

namespace Courier.CommandLine

/-- How the command line is used. -/
def usage : String := "\n".intercalate [
  "Send HTTP and WebSocket requests",
  "",
  "Usage: courier [--config FILE] get URL [--follow] [--proxy HOST:PORT]",
  "       courier [--config FILE] ws URL [--message TEXT]"]

/-- Content of a file, if it can be read. -/
def readFile? (path : String) : IO (Option Bytes) := do
  try
    return some (← IO.FS.readBinFile path).toList
  catch _ => return none

/-- Runs the command of a command line. -/
def runWords (words : List String) : IO Outcome := do
  match Invocation.ofWords words with
  | .error refusal => return .refused refusal
  | .ok invocation =>
    let content ← match invocation.configPath with
      | none => pure none
      | some path => readFile? path
    return invocation.run .unreachable content

/-- Says what a command came to. -/
def tell (outcome : Outcome) : IO Unit := do
  match outcome with
  | .refused .help => IO.println usage
  | .refused .misuse => IO.eprintln usage
  | .failed failure => IO.eprintln (failure.message)
  | _ =>
    match outcome.summary? (toString (← IO.rand 0 UInt64.size)) with
    | some summary => IO.println (summary.print 0)
    | none => pure ()

end Courier.CommandLine

/-- Runs the command line. -/
def main (words : List String) : IO UInt32 := do
  let outcome ← Courier.CommandLine.runWords words
  Courier.CommandLine.tell outcome
  return UInt32.ofNat outcome.exitCode
