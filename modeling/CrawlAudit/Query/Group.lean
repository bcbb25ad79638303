import CrawlAudit.Cell.Sum
import CrawlAudit.Query.Catalog
import CrawlAudit.Query.Nesting
import CrawlAudit.Query.Settings
import CrawlAudit.Store.Table

/-!
# Groups of rows

Rows are selected by a filter, grouped by the cells of some columns and summed column by column.
Two rows belong to one group when their cells in those columns are equal in the total order.
-/

namespace CrawlAudit

/-- The sums of a group of rows, by column. -/
structure Group where
  columns : List String
  values : Row

namespace Group

/-- The value of a column; null if there is none. -/
def get (group : Group) (field : String) : Cell :=
  match group.columns.findIdx? (· == field) with
  | some i => group.values.cell i
  | none => .null

end Group

namespace Table

def select (table : Table) (filter : Option Filter) : List Row :=
  match filter with
  | none => table.rows
  | some f => table.rows.filter fun row => f.root.accepts (table.cell row)

/-- The sums of all columns with the cells of one more row added. -/
def addRow (sums row : Row) : Row :=
  sums.mapIdx fun i total => total.add (row.cell i)

def sums (table : Table) (rows : List Row) : Row :=
  rows.foldl addRow (List.replicate table.columns.length .null)

def total (table : Table) (rows : List Row) : Group :=
  ⟨table.columns, table.sums rows⟩

def keyOrder (keys : List (Option Nat)) : Row → Row → Ordering :=
  Order.lexicographic (fun key a b => (cellAt a key).totalCompare (cellAt b key)) keys

/-- The group of a run: a key column has the cell of the first row, the others are summed. -/
def groupOfRun (table : Table) (keys : List (Option Nat)) (run : List Row) : Group :=
  let first := run.headD []
  ⟨table.columns, (table.sums run).mapIdx fun i total =>
    if keys.contains (some i) then first.cell i else total⟩

def groups (table : Table) (rows : List Row) (keys : List (Option Nat)) : List Group :=
  (Order.runs (keyOrder keys) (Order.sort (keyOrder keys) rows)).map (table.groupOfRun keys)

end Table

namespace QuerySettings

/-- The order of groups by the entries of a sorting, the first that tells them apart. -/
def groupOrder (entries : List (String × Direction)) : Group → Group → Ordering :=
  Order.lexicographic (fun e a b => e.2.apply ((a.get e.1).totalCompare (b.get e.1))) entries

def validate (settings : QuerySettings) (catalog : FieldCatalog) (table : Table)
    (check : FieldCheck) : Except Fault Unit :=
  catalog.validate (settings.referencedFields ++ settings.filterFields) table.columns check

/-- The counters that a query shows: those it names, or all columns that are no dimension and not
excluded. -/
def shownFields (settings : QuerySettings) (catalog : FieldCatalog) (table : Table)
    (excluded : List String) : List String :=
  match settings.fields with
  | some fields => catalog.expand fields
  | none =>
    catalog.expand (table.columns.filter fun c =>
      !catalog.isDimension c && !excluded.contains c)

end QuerySettings

namespace FieldCatalog

def showCounters (catalog : FieldCatalog) (fields : List String)
    (lookup : String → Option Cell) : Json.Members :=
  Nesting.nest (fields.map fun field => (field, catalog.showCounter field (lookup field)))

end FieldCatalog

def TableStore.table (store : TableStore) (name : String) : Except Fault Table :=
  match store.table? name with
  | some table => .ok table
  | none => .error (.missingTable name)

end CrawlAudit
