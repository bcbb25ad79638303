import CrawlAudit.Query.Group

/-!
# Metrics

Queries on the counters of the crawl: the sums over all selected rows, or one result per group.
-/

namespace CrawlAudit

structure GroupResult where
  properties : Json.Members
  counters : Json.Members
  deriving DecidableEq

inductive QueryResult where
  | aggregate (counters : Json.Members)
  | grouped (results : List GroupResult)

/-- How a query is run: the fields it may name and the groups that are kept. -/
structure MetricsQuery where
  catalog : FieldCatalog
  check : FieldCheck
  keeps : Group → Bool

namespace MetricsQuery

def keepAll (_ : Group) : Bool :=
  true

def keepAbove (pages : Int64) (group : Group) : Bool :=
  pages.toInt < (FieldCatalog.shownNumber (some (group.get "pages_nb"))).toInt

/-- Three percent, as a double. -/
def pageShare : Binary64 :=
  Binary64.ofDecimal false 3 (-2)

/-- The number of pages above which a group is kept in a crawl of the given size. -/
def minimumPages (urlsDone : Nat) : Int64 :=
  Int64.ofIntClamp ((Binary64.ofInt urlsDone).mul pageShare).truncate

/-- The groups of a query in the order in which they are shown. -/
def orderedGroups (query : MetricsQuery) (settings : QuerySettings) (table : Table)
    (groupBy : List String) : List Group :=
  let groups := table.groups (table.select settings.filter) (groupBy.map table.columnIndex?)
  let kept := groups.filter query.keeps
  match settings.sort with
  | some entries => Order.sort (QuerySettings.groupOrder entries) kept
  | none => kept

def showGroup (query : MetricsQuery) (groupBy fields : List String) (group : Group) :
    GroupResult where
  properties := Sorted.ofList Order.texts
    (groupBy.map fun f => (f, FieldCatalog.showDimension (group.get f)))
  counters := query.catalog.showCounters fields fun f => some (group.get f)

/-- The result of a query on a table whose fields have been checked. -/
def result (query : MetricsQuery) (settings : QuerySettings) (table : Table) : QueryResult :=
  let fields := settings.shownFields query.catalog table []
  match settings.groupBy with
  | some (key :: keys) =>
    .grouped ((query.orderedGroups settings table (key :: keys)).map
      (query.showGroup (key :: keys) fields))
  | _ =>
    let group := table.total (table.select settings.filter)
    .aggregate (query.catalog.showCounters fields fun f => some (group.get f))

def run (query : MetricsQuery) (store : TableStore) (settings : QuerySettings) :
    Except Fault QueryResult := do
  let table ← store.table TableStore.crawlTable
  settings.validate query.catalog table query.check
  return query.result settings table

end MetricsQuery

namespace QueryResult

def groupDocument (result : GroupResult) : Json :=
  .object [("properties", .object result.properties), ("counters", .object result.counters)]

def toDocument : QueryResult → Json
  | .aggregate counters => .object [("counters", .object counters)]
  | .grouped results => .array (results.map groupDocument)

end QueryResult

end CrawlAudit
