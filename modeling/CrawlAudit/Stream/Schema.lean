import CrawlAudit.Cell.Basic
import CrawlAudit.Fault
import CrawlAudit.Text.Blank

/-!
# Streams and their columns

A stream is a family of tab separated files with a fixed list of typed columns. Reading a line
gives a row of cells of those types; writing such a row gives a line that reads back.
-/

namespace CrawlAudit

/-- A stream's name, the first part of its file names, and its columns in order. -/
structure StreamSchema where
  name : String
  fileStem : String
  columns : List (String × ColumnType)

namespace ColumnType

/-- The truth values as they are written in files. -/
def bool? (cs : List Char) : Option Bool :=
  let word := String.ofList cs
  if word = "1" ∨ word = "true" ∨ word = "True" then some true
  else if word = "0" ∨ word = "false" ∨ word = "False" then some false
  else none

/-- Reads integers between semicolons; a blank text is the empty list. -/
def integers? (cs : List Char) : Option (List Int64) :=
  if Blank.allBlank cs then some []
  else (cs.splitOn ';').mapM fun piece => Decimal.int64? (Blank.trim piece)

/-- Reads the text of a cell. Blanks around numbers and truth values are ignored. -/
def read? (type : ColumnType) (raw : String) : Option Cell :=
  let trimmed := Blank.trimmed raw
  match type with
  | .int => (Decimal.int64? trimmed).map .int
  | .float => (Binary64.ofText? trimmed).map .float
  | .text => some (.text raw)
  | .bool => (bool? trimmed).map .bool
  | .intList => (integers? raw.toList).map .ofIntegers

def cast (type : ColumnType) (field raw : String) : Except Fault Cell :=
  match type.read? raw with
  | some c => .ok c
  | none => .error (.cast field raw type)

end ColumnType

namespace StreamSchema

def columnIndex (schema : StreamSchema) (field : String) : Except Fault Nat :=
  match schema.columns.findIdx? fun c => c.1 == field with
  | some i => .ok i
  | none => .error (.unknownStreamField schema.name field)

/-- Casts one text per column from the left; the first that fails decides. -/
def castColumns : List (String × ColumnType) → List String → Except Fault Row
  | (field, type) :: columns, raw :: raws => do
    let c ← type.cast field raw
    let cells ← castColumns columns raws
    return c :: cells
  | _, _ => .ok []

/-- Casts the texts of a row; texts past the last column are ignored. -/
def cast (schema : StreamSchema) (raws : List String) : Except Fault Row :=
  if raws.length < schema.columns.length then
    .error (.missingColumn schema.name schema.columns.length raws.length)
  else castColumns schema.columns raws

def isLineEnd (c : Char) : Bool :=
  c == '\n' || c == '\r'

def withoutLineEnd (line : List Char) : List Char :=
  (line.reverse.dropWhile isLineEnd).reverse

/-- Casts the tab separated texts of a line. -/
def castLine (schema : StreamSchema) (line : List Char) : Except Fault Row :=
  schema.cast (((withoutLineEnd line).splitOn '\t').map String.ofList)

def named (schema : StreamSchema) (row : Row) : List (String × Cell) :=
  (schema.columns.map Prod.fst).zip row

def patterns : StreamSchema where
  name := "patterns"
  fileStem := "urlids"
  columns := [("id", .int), ("protocol", .text), ("host", .text), ("path", .text),
    ("query_string", .text)]

/-- The contents found on each url, as hashes. -/
def contents : StreamSchema where
  name := "contents"
  fileStem := "urlcontents"
  columns := [("id", .int), ("content_type", .int), ("hash", .int), ("txt", .text)]

def outlinks : StreamSchema where
  name := "outlinks_raw"
  fileStem := "urllinks"
  columns := [("id", .int), ("link_type", .text), ("follow", .int), ("dst_url_id", .int),
    ("external_url", .text)]

def duplicates : StreamSchema where
  name := "contents_duplicate"
  fileStem := "urlcontentsduplicate"
  columns := [("id", .int), ("content_type", .int), ("filled_nb", .int), ("duplicates_nb", .int),
    ("is_first", .bool), ("duplicate_urls", .intList)]

def all : List StreamSchema :=
  [patterns, contents, outlinks, duplicates]

end StreamSchema

end CrawlAudit
