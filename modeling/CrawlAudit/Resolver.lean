import CrawlAudit.Outlink.Ranking
import CrawlAudit.Store.Table
import CrawlAudit.Stream.Reading

/-!
# Resolving keys to texts

A resolver is asked once for all keys of a result and answers with the texts of those it knows.
-/

namespace CrawlAudit

/-- Answers a batch of keys with the texts of the known ones. -/
abbrev Resolver (κ : Type) :=
  List κ → Except Fault (List (κ × String))

namespace Resolver

variable {κ : Type} [BEq κ]

/-- The keys with the text that the last matching entry gives them. -/
def answers (entries : List (κ × String)) (keys : List κ) : List (κ × String) :=
  keys.filterMap fun key => (entries.reverse.lookup key).map fun text => (key, text)

def ofEntries (entries : List (κ × String)) : Resolver κ :=
  fun keys => .ok (answers entries keys)

def requestText? (keyColumn textColumn : Nat) (row : Row) : Option (String × String) := do
  let key ← (row.cell keyColumn).keyText?
  let text ← (row.cell textColumn).keyText?
  return (key, text)

/-- The resolver of pattern keys. Without a table of requests it knows no key. -/
def ofRequests (store : TableStore) : Resolver String := fun keys =>
  match store.table? TableStore.requestTable with
  | none => .ok []
  | some table =>
    match table.columnIndex? "query", table.columnIndex? "string" with
    | some keyColumn, some textColumn =>
      .ok (answers (table.rows.filterMap (requestText? keyColumn textColumn)) keys)
    | _, _ => .error (.badRequest .missingRequestColumns)

/-- The whole url in a row of the stream of urls; it needs a protocol and a host. -/
def urlOfRow? (row : Row) : Option String := do
  let protocol ← row.text? 1
  let host ← row.text? 2
  let path := (row.text? 3).getD ""
  let query := (row.text? 4).getD ""
  return protocol ++ "://" ++ host ++ path ++ if query = "" then "" else "?" ++ query

def urlText? (row : Row) : Option (Int64 × String) := do
  let id ← row.integer? 0
  let url ← urlOfRow? row
  return (id, url)

def ofUrlStream (directory : Option Directory) : Resolver Int64 := fun keys => do
  let reading ← Reading.ofDirectory .patterns directory
  reading.check
  return answers (reading.rows.filterMap urlText?) keys

end Resolver

namespace Outlink

def sampledSources (stats : DomainStats Int64) : List Int64 :=
  (stats.followSample ++ stats.nofollowSample).flatMap Destination.sources

def allSources (domains : List (RankedDomain Int64)) : List Int64 :=
  (Order.sort (fun a b => Order.integers a.toInt b.toInt)
    (domains.flatMap fun d => sampledSources d.2)).eraseDups

/-- The samples with the texts of the known sources; unknown sources are left out. -/
def showDestinations (known : List (Int64 × String)) (destinations : List (Destination Int64)) :
    List (Destination String) :=
  destinations.map fun d =>
    { url := d.url
      uniqueLinks := d.uniqueLinks
      sources := d.sources.filterMap fun id => known.lookup id }

/-- The description of a domain with the texts of its sources. -/
def showStats (known : List (Int64 × String)) (stats : DomainStats Int64) :
    DomainStats String where
  domain := stats.domain
  follow := stats.follow
  nofollow := stats.nofollow
  uniqueFollow := stats.uniqueFollow
  followSample := showDestinations known stats.followSample
  nofollowSample := showDestinations known stats.nofollowSample

/-- The ranking with the texts of its sources, asked for all at once. -/
def resolveSources (domains : List (RankedDomain Int64)) (resolver : Resolver Int64) :
    Except Fault (List (RankedDomain String)) := do
  let known ← resolver (allSources domains)
  return domains.map fun d => (d.1, showStats known d.2)

end Outlink

end CrawlAudit
