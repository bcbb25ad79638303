import CrawlAudit.Fault
import CrawlAudit.Sink.Basic
import CrawlAudit.Text.Lowercase

/-!
# Configuration

Settings of the programs from named variables. A variable that is missing or does not read leaves
the default.
-/

namespace CrawlAudit

abbrev Environment :=
  List (String × String)

structure Configuration where
  dataDir : String
  databasePath : String
  outputPath : String
  topDomains : Nat
  domainSampleSize : Nat
  domainSampleSources : Nat
  duplicateSampleSize : Nat
  strictFields : Bool
  maxResults : Nat
  maxChildren : Nat

namespace Configuration

def default : Configuration where
  dataDir := "data"
  databasePath := "data/crawlstats.db"
  outputPath := "data/out"
  topDomains := 100
  domainSampleSize := 100
  domainSampleSources := 3
  duplicateSampleSize := 10
  strictFields := true
  maxResults := 30
  maxChildren := 10

/-- Reads a count of 64 bits. -/
def count? (s : String) : Option Nat :=
  Decimal.word? 64 s.toList

def bool? (s : String) : Option Bool :=
  if s = "true" then some true else if s = "false" then some false else none

def ofEnvironment (environment : Environment) : Configuration :=
  let text (name fallback : String) : String := (environment.lookup name).getD fallback
  let count (name : String) (fallback : Nat) : Nat :=
    ((environment.lookup name).bind count?).getD fallback
  { dataDir := text "CRAWLSTATS_DATA_DIR" default.dataDir
    databasePath := text "CRAWLSTATS_DB_PATH" default.databasePath
    outputPath := text "CRAWLSTATS_OUTPUT_PATH" default.outputPath
    topDomains := count "TOP_DOMAINS_N" default.topDomains
    domainSampleSize := count "DOMAIN_SAMPLE_SIZE" default.domainSampleSize
    domainSampleSources := count "DOMAIN_SAMPLE_SOURCES" default.domainSampleSources
    duplicateSampleSize := count "DUPLICATE_SAMPLE_SIZE" default.duplicateSampleSize
    strictFields := ((environment.lookup "STRICT_FIELDS").bind bool?).getD default.strictFields
    maxResults := count "MAX_RESULTS" default.maxResults
    maxChildren := count "MAX_CHILDREN" default.maxChildren }

end Configuration

namespace Backend

/-- The backend of a name in any case. -/
def ofName (s : String) : Except Fault Backend :=
  let folded := Lowercase.text s
  if folded = Backend.lines.name then .ok .lines
  else if folded = Backend.tables.name then .ok .tables
  else .error (.config (.unknownBackend folded))

/-- What follows the first occurrence of a flag. -/
def flagValue? (flag : String) : List String → Option String
  | [] => none
  | arg :: args => if arg == flag then args.head? else flagValue? flag args

/-- The backend that the arguments ask for; files of lines if they ask for none or for an unknown
one. -/
def ofArguments (args : List String) : Backend :=
  match (flagValue? "--backend" args).map ofName with
  | some (.ok backend) => backend
  | _ => .lines

end Backend

end CrawlAudit
