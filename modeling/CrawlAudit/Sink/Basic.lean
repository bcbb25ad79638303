import CrawlAudit.Sink.LineFiles
import CrawlAudit.Sink.RecordTables

/-!
# Sinks

Where derived records are written: files of lines or tables of a database.
-/

namespace CrawlAudit

inductive Backend where
  | lines
  | tables
  deriving DecidableEq

def Backend.name : Backend → String
  | .lines => "jsonl"
  | .tables => "sqlite"

inductive Sink where
  | lines (sink : LineSink)
  | tables (sink : TableSink)

namespace Sink

def create (backend : Backend) (stamp : Int64) : Sink :=
  match backend with
  | .lines => .lines (.create [] stamp.toInt)
  | .tables => .tables (.create .empty stamp)

/-- The name that a sink gives itself. -/
def label : Sink → String
  | .lines _ => "JSONL"
  | .tables _ => "SQLite"

def writeDuplicates (records : List DuplicateRecord) : Sink → Sink
  | .lines sink => .lines (sink.writeDuplicates records)
  | .tables sink => .tables (sink.writeDuplicates records)

def writeDomains (ranking : DomainRanking) (domains : List (RankedDomain String)) : Sink → Sink
  | .lines sink => .lines (sink.writeDomains ranking domains)
  | .tables sink => .tables (sink.writeDomains ranking domains)

/-- Makes everything written so far permanent. -/
def flush : Sink → Except Fault Unit × Sink
  | .lines sink => (.ok (), .lines sink.flush)
  | .tables sink => (sink.flush.1, .tables sink.flush.2)

/-- Closes the sink without a flush and opens a new one on the same location. -/
def reopen : Sink → Sink
  | .lines sink => .lines sink.reopen
  | .tables sink => .tables sink.reopen

end Sink

end CrawlAudit
