import CrawlAudit.Cell.Basic

/-!
# Tables

Rows under named columns, looked up by name in a store.
-/

namespace CrawlAudit

structure Table where
  columns : List String
  rows : List Row

namespace Table

/-- The position of the first column of a name. -/
def columnIndex? (table : Table) (column : String) : Option Nat :=
  table.columns.findIdx? (· == column)

def hasColumn (table : Table) (column : String) : Bool :=
  (table.columnIndex? column).isSome

/-- The cell in a column that may be missing. -/
def cellAt (row : Row) : Option Nat → Cell
  | some i => row.cell i
  | none => .null

def cell (table : Table) (row : Row) (column : String) : Cell :=
  cellAt row (table.columnIndex? column)

end Table

/-- The tables that can be queried, by name. -/
abbrev TableStore :=
  List (String × Table)

namespace TableStore

def table? (store : TableStore) (name : String) : Option Table :=
  store.lookup name

def crawlTable : String :=
  "full_crawl"

/-- The table of aggregated counters per pattern. -/
def patternTable : String :=
  "suggest"

/-- The table of parents and children among the patterns. -/
def relationTable : String :=
  "children"

/-- The table of the texts that patterns stand for. -/
def requestTable : String :=
  "requests"

end TableStore

end CrawlAudit
