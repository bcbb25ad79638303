import CrawlAudit.Configuration
import CrawlAudit.Duplicate.Detector
import CrawlAudit.Resolver
import CrawlAudit.Stream.Reading

/-!
# Derivation

All records of a crawl are derived from the files of its directory and only then written to a
sink.
-/

namespace CrawlAudit

structure DerivationSummary where
  duplicateRecords : Nat
  fullDomains : Nat
  secondLevelDomains : Nat

/-- Both rankings with the texts of their sources. -/
structure TopDomains where
  full : List (RankedDomain String)
  secondLevel : List (RankedDomain String)

namespace Derivation

/-- The contents are read only as far as the join asks for them, so their fault counts only if
the join has asked for a row past the last good one. -/
def checkContents (patterns contents : Reading) : Except Fault Unit :=
  if (DuplicateRecord.contentsSecondary contents.rows).isExhausted 0 patterns.rows then
    contents.check
  else .ok ()

def duplicates (directory : Option Directory) (sampleSize : Nat) :
    Except Fault (List DuplicateRecord) := do
  let patterns ← Reading.ofDirectory .patterns directory
  let contents ← Reading.ofDirectory .contents directory
  patterns.check
  checkContents patterns contents
  return DuplicateRecord.ofStreams patterns.rows contents.rows sampleSize

def sampling (configuration : Configuration) : Sampling :=
  ⟨configuration.domainSampleSize, configuration.domainSampleSources⟩

/-- The links of a crawl that count for the rankings. -/
def countedLinks (rows : List Row) : List Outlink :=
  Outlink.withDottedHost (Outlink.external (rows.map Outlink.ofRow))

/-- Both rankings of some links, the second-level domains resolved after the full ones. -/
def rankings (configuration : Configuration) (links : List Outlink) (resolver : Resolver Int64) :
    Except Fault TopDomains := do
  let n := configuration.topDomains
  let full := Outlink.topDomains Outlink.fullDomain? links n (sampling configuration)
  let secondLevel :=
    Outlink.topDomains Outlink.secondLevelDomain? links n (sampling configuration)
  let shownFull ← Outlink.resolveSources full resolver
  let shownSecondLevel ← Outlink.resolveSources secondLevel resolver
  return ⟨shownFull, shownSecondLevel⟩

def topDomains (configuration : Configuration) (directory : Option Directory)
    (resolver : Resolver Int64) : Except Fault TopDomains := do
  let reading ← Reading.ofDirectory .outlinks directory
  reading.check
  rankings configuration (countedLinks reading.rows) resolver

def records (configuration : Configuration) (directory : Option Directory)
    (resolver : Resolver Int64) : Except Fault (List DuplicateRecord × TopDomains) := do
  let duplicateRecords ← duplicates directory configuration.duplicateSampleSize
  let domains ← topDomains configuration directory resolver
  return (duplicateRecords, domains)

def write (duplicateRecords : List DuplicateRecord) (domains : TopDomains) (sink : Sink) :
    Except Fault Unit × Sink :=
  (((sink.writeDuplicates duplicateRecords).writeDomains .full domains.full).writeDomains
    .secondLevel domains.secondLevel).flush

/-- Derives all records and writes them; if they cannot be derived the sink gets nothing. -/
def run (configuration : Configuration) (directory : Option Directory)
    (resolver : Resolver Int64) (sink : Sink) : Except Fault DerivationSummary × Sink :=
  match records configuration directory resolver with
  | .error fault => (.error fault, sink)
  | .ok (duplicateRecords, domains) =>
    let (written, after) := write duplicateRecords domains sink
    (written.map fun _ =>
      ⟨duplicateRecords.length, domains.full.length, domains.secondLevel.length⟩, after)

end Derivation

end CrawlAudit
