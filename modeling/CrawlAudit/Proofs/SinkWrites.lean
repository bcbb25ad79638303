import CrawlAudit.Sink.Basic

/-!
# Writes to a sink

What is handed to a sink at once, what of it are duplicates and what a ranking, and which lines of
which file it becomes.
-/

namespace CrawlAudit

/-- A batch of domains with the ranking to which it belongs. -/
abbrev DomainBatch :=
  DomainRanking × List (RankedDomain String)

/-- What is handed to a sink at once. -/
inductive SinkWrite where
  | duplicates (records : List DuplicateRecord)
  | domains (ranking : DomainRanking) (batch : List (RankedDomain String))

namespace SinkWrite

def isDuplicates : SinkWrite → Bool
  | duplicates _ => true
  | domains _ _ => false

def records : SinkWrite → List DuplicateRecord
  | duplicates records => records
  | domains _ _ => []

def batch? : SinkWrite → Option DomainBatch
  | duplicates _ => none
  | domains ranking batch => some (ranking, batch)

def file : SinkWrite → String
  | duplicates _ => LineSink.duplicatesFile
  | domains ranking _ => LineSink.domainsFile ranking

def members : SinkWrite → List Json.Members
  | duplicates records => records.map DuplicateRecord.members
  | domains ranking batch => (RankedEntry.ofDomains ranking batch).map RankedEntry.members

def lines (stamp : Int) (write : SinkWrite) : List String :=
  write.members.map (recordLine stamp)

end SinkWrite

def TableSink.write (sink : TableSink) : SinkWrite → TableSink
  | .duplicates records => sink.writeDuplicates records
  | .domains ranking batch => sink.writeDomains ranking batch

section

variable (sink : TableSink) (write : SinkWrite)

theorem TableSink.tables_write : (sink.write write).tables = sink.tables := by
  cases write <;> rfl

theorem TableSink.duplicates_write :
    (sink.write write).duplicates = sink.duplicates ++ write.records := by
  cases write with
  | duplicates records => rfl
  | domains ranking batch => exact (List.append_nil _).symm

theorem TableSink.replaceDuplicates_write :
    (sink.write write).replaceDuplicates = (sink.replaceDuplicates || write.isDuplicates) := by
  cases write with
  | duplicates records => exact (Bool.or_true _).symm
  | domains ranking batch => exact (Bool.or_false _).symm

theorem TableSink.domains_write :
    (sink.write write).domains = sink.domains ++ write.batch?.toList := by
  cases write with
  | duplicates records => exact (List.append_nil _).symm
  | domains ranking batch => rfl

end

def LineSink.write (sink : LineSink) : SinkWrite → LineSink
  | .duplicates records => sink.writeDuplicates records
  | .domains ranking batch => sink.writeDomains ranking batch

theorem LineSink.write_eq (sink : LineSink) (write : SinkWrite) :
    sink.write write = sink.writeLines write.file (write.lines sink.stamp) := by
  cases write with
  | duplicates records =>
      simp [write, writeDuplicates, SinkWrite.file, SinkWrite.lines, SinkWrite.members,
        Function.comp_def]
  | domains ranking batch =>
      simp [write, writeDomains, SinkWrite.file, SinkWrite.lines, SinkWrite.members,
        Function.comp_def]

end CrawlAudit
