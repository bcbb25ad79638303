import CrawlAudit.Fault
import CrawlAudit.Sink.Record
import CrawlAudit.Store.Database

/-!
# Tables of records

Records are kept in two tables of a database: duplicates by url and kind, and domains by ranking
and domain. Nothing changes before a flush, and a flush changes all or nothing. The tables may
hold any rows before.
-/

namespace CrawlAudit

/-- The two tables, their rows in the order in which they were stored. -/
structure RecordTables where
  duplicates : List (List StoredValue)
  domains : List (List StoredValue)

namespace RecordTables

def empty : RecordTables :=
  ⟨[], []⟩

/-- The row of a duplicate with the time at which it is stored. -/
def duplicateRow (stamp : Int64) (record : DuplicateRecord) : List StoredValue :=
  [.integer record.urlId, .text record.kind.name, .integer (Int64.ofNat record.filled),
    .integer (Int64.ofNat record.duplicates), .integer (if record.isFirst then 1 else 0),
    .text (idsDocument record.others).compact, .integer stamp]

/-- The row of a ranked domain with the time at which it is stored. -/
def entryRow (stamp : Int64) (entry : RankedEntry) : List StoredValue :=
  [.text entry.ranking.name, .integer (Int64.ofNat entry.rank), .text entry.stats.domain,
    .integer (Int64.ofNat entry.stats.follow), .integer (Int64.ofNat entry.stats.nofollow),
    .integer (Int64.ofNat entry.stats.uniqueFollow),
    .text (destinationsDocument entry.stats.followSample).compact,
    .text (destinationsDocument entry.stats.nofollowSample).compact, .integer stamp]

/-- The primary key of a row of duplicates: the url and the kind. -/
def duplicateKey (row : List StoredValue) : Option StoredValue × Option StoredValue :=
  (row[0]?, row[1]?)

/-- The primary key of a row of domains: the ranking and the domain. -/
def entryKey (row : List StoredValue) : Option StoredValue × Option StoredValue :=
  (row[0]?, row[2]?)

/-- Whether a row of domains belongs to a ranking. -/
def isRankedIn (ranking : DomainRanking) (row : List StoredValue) : Bool :=
  row[0]? == some (.text ranking.name)

/-- Stores a duplicate; one of the same key is replaced. -/
def putDuplicate (stamp : Int64) (rows : List (List StoredValue)) (record : DuplicateRecord) :
    List (List StoredValue) :=
  let row := duplicateRow stamp record
  (rows.filter fun other => duplicateKey other != duplicateKey row) ++ [row]

/-- Stores a ranked domain; there must be none of the same key. -/
def putRanked? (stamp : Int64) (rows : List (List StoredValue)) (entry : RankedEntry) :
    Option (List (List StoredValue)) :=
  let row := entryRow stamp entry
  if rows.any fun other => entryKey other == entryKey row then none else some (rows ++ [row])

/-- Stores a ranking in place of the one of the same name. -/
def replaceRanking? (stamp : Int64) (rows : List (List StoredValue))
    (batch : DomainRanking × List (RankedDomain String)) : Option (List (List StoredValue)) :=
  (RankedEntry.ofDomains batch.1 batch.2).foldlM (putRanked? stamp)
    (rows.filter fun row => !isRankedIn batch.1 row)

def duplicateTable (tables : RecordTables) : StoredTable where
  columns := ["url_id", "content_type", "filled_nb", "duplicates_nb", "is_first",
    "duplicate_urls", "computed_at"]
  rows := tables.duplicates

def domainTable (tables : RecordTables) : StoredTable where
  columns := ["ranking", "rank", "domain", "follow_links", "nofollow_links",
    "unique_follow_links", "sample_follow_links", "sample_nofollow_links", "computed_at"]
  rows := tables.domains

def toDatabase (tables : RecordTables) : Database :=
  [("content_duplicates", tables.duplicateTable), ("top_domains", tables.domainTable)]

end RecordTables

/-- The tables with the records that wait for a flush. `replaceDuplicates` says that duplicates
have been written since the last one. -/
structure TableSink where
  tables : RecordTables
  duplicates : List DuplicateRecord
  replaceDuplicates : Bool
  domains : List (DomainRanking × List (RankedDomain String))
  stamp : Int64

namespace TableSink

def create (tables : RecordTables) (stamp : Int64) : TableSink :=
  ⟨tables, [], false, [], stamp⟩

def writeDuplicates (sink : TableSink) (records : List DuplicateRecord) : TableSink :=
  { sink with duplicates := sink.duplicates ++ records, replaceDuplicates := true }

def writeDomains (sink : TableSink) (ranking : DomainRanking)
    (domains : List (RankedDomain String)) : TableSink :=
  { sink with domains := sink.domains ++ [(ranking, domains)] }

def committedDuplicates (sink : TableSink) : List (List StoredValue) :=
  sink.duplicates.foldl (RecordTables.putDuplicate sink.stamp)
    (if sink.replaceDuplicates then [] else sink.tables.duplicates)

/-- The rankings after a flush; none if a batch has a domain twice. -/
def committedDomains? (sink : TableSink) : Option (List (List StoredValue)) :=
  sink.domains.foldlM (RecordTables.replaceRanking? sink.stamp) sink.tables.domains

/-- Stores everything that waits. On a fault the tables stay as they are and everything goes on
waiting. -/
def flush (sink : TableSink) : Except Fault Unit × TableSink :=
  match sink.committedDomains? with
  | some domains =>
    (.ok (), create ⟨sink.committedDuplicates, domains⟩ sink.stamp)
  | none => (.error .sinkRefused, sink)

/-- A new sink on the same tables; what waited is lost. -/
def reopen (sink : TableSink) : TableSink :=
  create sink.tables sink.stamp

end TableSink

end CrawlAudit
