import CrawlAudit.Command.Workspace
import CrawlAudit.Sink.Basic

/-!
# Workspaces as documents

A workspace in one document: its `files`, those of `data`, the `tables` of the database and the
variables of the environment (`env`). A file is a text, or an object with its octets in
hexadecimal (`hex`) or with `dir` for a folder. A stored value is a plain one, a list for its
text, or an object with octets (`blob`) or the bits of a double (`float`), both in hexadecimal.
-/

namespace CrawlAudit.WorkspaceDocument

def hexOctets : List Char → List UInt8
  | a :: b :: rest => UInt8.ofNat (Hexadecimal.value [a, b]) :: hexOctets rest
  | _ => []

def textMember (key : String) (document : Json) : List Char :=
  (((document.field? key).bind Json.text?).getD "").toList

def octets : Json → List UInt8
  | .text s => Utf8.encode s.toList
  | document => hexOctets (textMember "hex" document)

def entry (document : Json) : DirectoryEntry :=
  if (document.field? "dir").bind Json.bool? == some true then .folder
  else .file (octets document)

/-- A directory; what is no object is none. -/
def directory? (document : Json) : Option Directory :=
  document.members?.map fun members => members.map fun m => (m.1, entry m.2)

/-- A stored double; one that is not a number is stored as nothing. -/
def storedReal (x : Binary64) : StoredValue :=
  if x.isNaN then .null else .real x

def doubleOfBits (digits : List Char) : Binary64 :=
  if digits == "nan".toList then .nan else ⟨UInt64.ofNat (Hexadecimal.value digits)⟩

def storedValue : Json → StoredValue
  | .null => .null
  | .bool b => .integer (Cell.ofBool b)
  | .int n =>
    match Cell.ofJson (.int n) with
    | .int m => .integer m
    | .float x => storedReal x
    | _ => .null
  | .float x => storedReal x
  | .text s => .text s
  | .array items => .text (Json.array items).compact
  | .object members =>
    if (Json.member? "blob" members).isSome then
      .blob (hexOctets (textMember "blob" (.object members)))
    else if (Json.member? "float" members).isSome then
      storedReal (doubleOfBits (textMember "float" (.object members)))
    else .null

def listMember (key : String) (document : Json) : List Json :=
  ((document.field? key).bind Json.items?).getD []

/-- A row with as many values as there are columns. -/
def storedRow (width : Nat) (document : Json) : List StoredValue :=
  let items := document.items?.getD []
  (List.range width).map fun i => storedValue (items.getD i .null)

def storedTable (document : Json) : StoredTable :=
  let columns := (listMember "columns" document).filterMap Json.text?
  ⟨columns, (listMember "rows" document).map (storedRow columns.length)⟩

/-- A database; what is no object is none. -/
def database? (document : Json) : Option Database :=
  document.members?.map fun members => members.map fun m => (m.1, storedTable m.2)

def environment (document : Json) : Environment :=
  (document.members?.getD []).filterMap fun m => m.2.text?.map fun s => (m.1, s)

/-- The workspace of a document; what is missing is empty. -/
def workspace (document : Json) : Workspace where
  files := ((document.field? "files").bind directory?).getD []
  data := ((document.field? "data").bind directory?).getD []
  database := (document.field? "tables").bind database?
  environment := ((document.field? "env").map environment).getD []

/-- The contents of a sink: the lines of its files, or the rows of its tables. -/
def ofSink : Sink → Json
  | .lines sink => .object (sink.files.map fun file => (file.1, .array (file.2.map .text)))
  | .tables sink =>
    .object (sink.tables.toDatabase.map fun table =>
      (table.1, .array (table.2.toTable.rows.map fun row => .array (row.map Cell.toJson))))

end CrawlAudit.WorkspaceDocument
