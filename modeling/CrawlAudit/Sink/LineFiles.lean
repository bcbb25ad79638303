import CrawlAudit.Sink.Record
import CrawlAudit.Sorted

/-!
# Files of lines

Records are written as lines to one file per kind. A file is emptied when it is first written to,
and its lines reach it when the sink is flushed or closed.
-/

namespace CrawlAudit

/-- The lines of some files, by name. -/
abbrev LineFiles :=
  List (String × List String)

/-- Files of lines with the lines that have not reached them, for every file written to so far,
and the time that is put on the records. -/
structure LineSink where
  files : LineFiles
  pending : LineFiles
  stamp : Int

namespace LineSink

def create (files : LineFiles) (stamp : Int) : LineSink :=
  ⟨files, [], stamp⟩

def duplicatesFile : String :=
  "duplicates.jsonl"

def domainsFile : DomainRanking → String
  | .full => "full_domains.jsonl"
  | .secondLevel => "second_level_domains.jsonl"

def writeLines (sink : LineSink) (name : String) (lines : List String) : LineSink :=
  match Sorted.find? Order.texts name sink.pending with
  | some waiting =>
    { sink with pending := Sorted.insert Order.texts name (waiting ++ lines) sink.pending }
  | none =>
    { sink with
      files := Sorted.insert Order.texts name [] sink.files
      pending := Sorted.insert Order.texts name lines sink.pending }

def writeDuplicates (sink : LineSink) (records : List DuplicateRecord) : LineSink :=
  sink.writeLines duplicatesFile (records.map fun r => recordLine sink.stamp r.members)

def writeDomains (sink : LineSink) (ranking : DomainRanking)
    (domains : List (RankedDomain String)) : LineSink :=
  sink.writeLines (domainsFile ranking)
    ((RankedEntry.ofDomains ranking domains).map fun e => recordLine sink.stamp e.members)

def appendLines (files : LineFiles) (entry : String × List String) : LineFiles :=
  Sorted.alter Order.texts entry.1 (fun lines => lines.getD [] ++ entry.2) files

/-- Lets all waiting lines reach their files. -/
def flush (sink : LineSink) : LineSink :=
  { sink with
    files := sink.pending.foldl appendLines sink.files
    pending := sink.pending.map fun e => (e.1, []) }

/-- A new sink on the files that closing this one leaves. -/
def reopen (sink : LineSink) : LineSink :=
  create sink.flush.files sink.stamp

end LineSink

end CrawlAudit
