import CrawlAudit.Query.Group
import CrawlAudit.Query.Hierarchy
import CrawlAudit.Resolver

/-!
# Pattern suggestions

The patterns of the crawl ranked by a counter, and optionally reduced by their hierarchy.
-/

namespace CrawlAudit

/-- A pattern as it is shown; the children are left out where there are none to show. -/
structure PatternOutput where
  query : String
  hashIds : List Int64
  counters : Json.Members
  children : Option (List PatternOutput)

/-- How suggestions are made: the fields a query may name, and how many patterns and children
are shown. -/
structure SuggestQuery where
  catalog : FieldCatalog
  check : FieldCheck
  maxResults : Nat
  maxChildren : Nat

namespace SuggestQuery

def keyColumn : String :=
  "query"

/-- The pattern of a group; a group without a usable key has none. -/
def pattern? (fields : List String) (target : String) (group : Group) : Option PatternResult :=
  (group.get keyColumn).keyText?.map fun key =>
    .mk key (Sorted.ofList Order.texts ((fields ++ [target]).map fun f => (f, group.get f))) []

/-- The patterns of a table, the greatest target first. -/
def rankedPatterns (settings : QuerySettings) (table : Table) (keyIndex : Nat)
    (fields : List String) : List PatternResult :=
  let groups := table.groups (table.select settings.filter) [some keyIndex]
  let ranked := Order.sort
    (fun a b => (b.get settings.target).totalCompare (a.get settings.target)) groups
  ranked.filterMap (pattern? fields settings.target)

/-- The patterns reduced by the relation in the store, if it has one. -/
def reduced (store : TableStore) (target : String) (patterns : List PatternResult) :
    List PatternResult :=
  match Hierarchy.ofStore? store with
  | some hierarchy => hierarchy.reduce patterns target
  | none => patterns

/-- The counters shown and the patterns, before their keys are resolved and the list is cut. -/
def patterns (query : SuggestQuery) (store : TableStore) (settings : QuerySettings)
    (relevance : Bool) : Except Fault (List String × List PatternResult) := do
  let table ← store.table TableStore.patternTable
  settings.validate query.catalog table query.check
  match table.columnIndex? keyColumn with
  | none => .error (.badRequest .missingPatternColumn)
  | some keyIndex =>
    let fields := settings.shownFields query.catalog table [keyColumn]
    let ranked := rankedPatterns settings table keyIndex fields
    return (fields, if relevance then reduced store settings.target ranked else ranked)

/-- The integers between the semicolons of a key. -/
def hashIds (key : String) : List Int64 :=
  (key.toList.splitOn ';').filterMap fun part => Decimal.int64? (Blank.trim part)

def output (query : SuggestQuery) (fields : List String) (known : List (String × String))
    (children : Option (List PatternOutput)) (pattern : PatternResult) : PatternOutput where
  query := (known.lookup pattern.key).getD pattern.key
  hashIds := hashIds pattern.key
  counters := query.catalog.showCounters fields pattern.counter?
  children := children

/-- A pattern as it is shown, with the first of its children. -/
def outputWithChildren (query : SuggestQuery) (settings : QuerySettings) (fields : List String)
    (known : List (String × String)) (pattern : PatternResult) : PatternOutput :=
  let children :=
    if settings.displayChildren && !pattern.children.isEmpty then
      some ((pattern.children.take query.maxChildren).map (query.output fields known none))
    else none
  query.output fields known children pattern

def allKeys (patterns : List PatternResult) : List String :=
  (Order.sort Order.texts
    (patterns.flatMap fun p => p.key :: p.children.map PatternResult.key)).eraseDups

def run (query : SuggestQuery) (store : TableStore) (settings : QuerySettings)
    (resolver : Resolver String) (relevance : Bool) : Except Fault (List PatternOutput) := do
  let (fields, patterns) ← query.patterns store settings relevance
  let known ← resolver (allKeys patterns)
  return (patterns.take query.maxResults).map (query.outputWithChildren settings fields known)

end SuggestQuery

namespace PatternOutput

mutual

def toDocument : PatternOutput → Json
  | ⟨query, hashIds, counters, children⟩ =>
    .object ([("query", .text query), ("query_hash_id", .array (hashIds.map fun n => .int n.toInt)),
      ("counters", .object counters)] ++ childrenMember children)

def childrenMember : Option (List PatternOutput) → Json.Members
  | none => []
  | some children => [("children", .array (documents children))]

def documents : List PatternOutput → List Json
  | [] => []
  | p :: ps => toDocument p :: documents ps

end

end PatternOutput

end CrawlAudit
