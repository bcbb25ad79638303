import CrawlAudit.Command.Program
import CrawlAudit.Command.WorkspaceDocument

/-!
# Command line

`crawl_query` and `crawl_metrics`, by the first argument. The workspace is read from the standard
input as a document, in which `now` is the time for the records; the changed files or tables of a
derivation are written as one.
-/

open CrawlAudit

namespace CrawlAudit.CommandLine

def readAll (stream : IO.FS.Stream) : IO String := do
  let mut text := ""
  repeat
    let line ← stream.getLine
    if line.isEmpty then break
    text := text ++ line
  return text

/-- What a program leaves in a workspace that comes as a document. -/
def run? (program : String) (args : List String) (document : Json) : Option Outcome :=
  let workspace := WorkspaceDocument.workspace document
  let now := ((document.field? "now").bind Json.int?).getD 0
  if program = "crawl_query" then some (Program.query workspace args)
  else if program = "crawl_metrics" then
    some (Program.metrics workspace args (Int64.ofInt now))
  else none

def report (outcome : Outcome) : IO UInt32 := do
  IO.print outcome.output
  match outcome.fault, outcome.sink with
  | some fault, _ => (← IO.getStderr).putStrLn ("Error: " ++ fault.message)
  | none, some sink => IO.println (WorkspaceDocument.ofSink sink).laidOut
  | none, none => pure ()
  return UInt32.ofNat outcome.exitCode

end CrawlAudit.CommandLine

def main (args : List String) : IO UInt32 := do
  let text ← CommandLine.readAll (← IO.getStdin)
  let outcome := do
    let program ← args.head?
    let document ← Json.readWithin? text.length text
    CommandLine.run? program args.tail document
  match outcome with
  | some outcome => CommandLine.report outcome
  | none =>
    (← IO.getStderr).putStrLn
      "usage: crawl_query | crawl_metrics, with a workspace on the standard input"
    return 2
