import CrawlAudit.Duplicate.Record
import CrawlAudit.Json.Writer
import CrawlAudit.Outlink.Ranking

/-!
# Records as documents

The documents in which duplicates and ranked domains are written.
-/

namespace CrawlAudit

/-- The two rankings of domains: by whole host and by its last two labels. -/
inductive DomainRanking where
  | full
  | secondLevel
  deriving DecidableEq

def DomainRanking.name : DomainRanking → String
  | .full => "full_domains"
  | .secondLevel => "second_level_domains"

/-- A domain with its place in a ranking, counted from one. -/
structure RankedEntry where
  ranking : DomainRanking
  rank : Nat
  stats : DomainStats String

def RankedEntry.ofDomains (ranking : DomainRanking) (domains : List (RankedDomain String)) :
    List RankedEntry :=
  domains.mapIdx fun i d => ⟨ranking, i + 1, d.2⟩

def idsDocument (ids : List Int64) : Json :=
  .array (ids.map fun id => .int id.toInt)

def DuplicateRecord.members (record : DuplicateRecord) : Json.Members :=
  [("url_id", .int record.urlId.toInt), ("content_type", .text record.kind.name),
    ("filled_nb", .int record.filled), ("duplicates_nb", .int record.duplicates),
    ("is_first", .bool record.isFirst), ("duplicate_urls", idsDocument record.others)]

def Destination.document (destination : Destination String) : Json :=
  .object [("url", .text destination.url), ("unique_links", .int destination.uniqueLinks),
    ("sample_sources", .array (destination.sources.map .text))]

def destinationsDocument (destinations : List (Destination String)) : Json :=
  .array (destinations.map Destination.document)

def RankedEntry.members (entry : RankedEntry) : Json.Members :=
  [("ranking", .text entry.ranking.name), ("rank", .int entry.rank),
    ("domain", .text entry.stats.domain), ("follow_links", .int entry.stats.follow),
    ("nofollow_links", .int entry.stats.nofollow),
    ("unique_follow_links", .int entry.stats.uniqueFollow),
    ("sample_follow_links", destinationsDocument entry.stats.followSample),
    ("sample_nofollow_links", destinationsDocument entry.stats.nofollowSample)]

/-- The line of a record: its members and the time at which it was computed. -/
def recordLine (stamp : Int) (members : Json.Members) : String :=
  (Json.object (members ++ [("computed_at", .int stamp)])).compact

end CrawlAudit
