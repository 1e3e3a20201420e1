import Treegram.Command

/-!
The program: arguments in, a line out, errors and events on the error stream.
-/

open Treegram

/-- Warnings are always shown, everything else to those who want to know more. -/
def isShown (verbose : Bool) (event : Event) : Bool :=
  verbose || event.severity == .warning

def readFileText (path : String) : IO (Option String) := do
  try
    return some (← IO.FS.readFile path)
  catch _ =>
    return none

def main (args : List String) : IO UInt32 := do
  match Command.Request.ofArgs? {} args with
  | none =>
      IO.eprintln "usage: [--grammar PATH] [--json] [--strict] [--verbose]"
      return Command.wrongUse.status.toUInt32
  | some request =>
      let text ←
        match request.grammarPath with
        | none => pure none
        | some path => readFileText path
      let (outcome, events) := Command.run (fun _ => text) request
      for event in events do
        if isShown request.verbose event then
          IO.eprintln (event.severity.text ++ " " ++ event.message ++ " " ++ event.subject?.getD "")
      match outcome.report with
      | [] => pure ()
      | first :: causes =>
          IO.eprintln first
          for cause in causes do
            IO.eprintln ("  caused by: " ++ cause)
      IO.print outcome.output
      return outcome.status.toUInt32
