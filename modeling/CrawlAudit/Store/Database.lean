import CrawlAudit.Json.Reader
import CrawlAudit.Store.Table
import CrawlAudit.Text.Utf8

/-!
# Databases

A database keeps the values of its tables in a few storage classes. When it is read, a text that
is a JSON list becomes a list.
-/

namespace CrawlAudit

inductive StoredValue where
  | null
  | integer (n : Int64)
  | real (x : Binary64)
  | text (s : String)
  | blob (octets : List UInt8)
  deriving DecidableEq

namespace Cell

mutual

/-- The cell of a document without objects. -/
def ofPlainJson? : Json → Option Cell
  | .object _ => none
  | .array items => (ofPlainItems? items).map .list
  | .null => some .null
  | .bool b => some (.bool b)
  | .int n => some (ofJson (.int n))
  | .float x => some (.float x)
  | .text s => some (.text s)

def ofPlainItems? : List Json → Option (List Cell)
  | [] => some []
  | x :: xs => do
    let c ← ofPlainJson? x
    let cs ← ofPlainItems? xs
    return c :: cs

end

/-- The list that a text is, if it starts as one and has no objects. -/
def listOfText? (s : String) : Option Cell :=
  if s.toList.head? == some '[' then (Json.read? s).bind ofPlainJson? else none

end Cell

namespace StoredValue

/-- The cell that a stored value is read as. Octets that are not text are read leniently. -/
def toCell : StoredValue → Cell
  | .null => .null
  | .integer n => .int n
  | .real x => .float x
  | .text s => (Cell.listOfText? s).getD (.text s)
  | .blob octets =>
    let s := String.ofList (Utf8.decodeLenient octets)
    (Cell.listOfText? s).getD (.text s)

end StoredValue

structure StoredTable where
  columns : List String
  rows : List (List StoredValue)

abbrev Database :=
  List (String × StoredTable)

def StoredTable.toTable (table : StoredTable) : Table where
  columns := table.columns
  rows := table.rows.map fun row => row.map StoredValue.toCell

def Database.toStore (database : Database) : TableStore :=
  database.map fun t => (t.1, t.2.toTable)

end CrawlAudit
