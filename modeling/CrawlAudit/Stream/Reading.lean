import CrawlAudit.Store.Directory
import CrawlAudit.Stream.Schema
import CrawlAudit.Text.Line
import CrawlAudit.Text.Utf8

/-!
# Reading streams

Reading a stream yields its rows up to the first line that cannot be decoded or cast, and nothing
after it. The files of a stream are read one after the other.
-/

namespace CrawlAudit

/-- The rows that a stream yields, and the fault that ended it early. -/
structure Reading where
  rows : List Row
  failure : Option Fault

namespace Reading

/-- A stream of rows that are typed already. -/
def ofRows (rows : List Row) : Reading :=
  ⟨rows, none⟩

def empty : Reading :=
  ofRows []

def failed (fault : Fault) : Reading :=
  ⟨[], some fault⟩

def cons (row : Row) (reading : Reading) : Reading :=
  ⟨row :: reading.rows, reading.failure⟩

/-- One stream after another; the second is read only if the first did not fail. -/
def append (first second : Reading) : Reading :=
  match first.failure with
  | some _ => first
  | none => ⟨first.rows ++ second.rows, second.failure⟩

def concat (readings : List Reading) : Reading :=
  readings.foldr append empty

/-- The row of a line; a blank line has none. -/
def lineRow? (schema : StreamSchema) (line : List UInt8) : Except Fault (Option Row) :=
  match Utf8.decode? line with
  | none => .error .unreadable
  | some cs =>
    if Blank.allBlank cs then .ok none else (schema.castLine cs).map some

def ofLines (schema : StreamSchema) : List (List UInt8) → Reading
  | [] => empty
  | line :: lines =>
    match lineRow? schema line with
    | .error fault => failed fault
    | .ok none => ofLines schema lines
    | .ok (some row) => cons row (ofLines schema lines)

def ofOctets (schema : StreamSchema) (octets : List UInt8) : Reading :=
  ofLines schema (Line.split octets)

/-- The stream of a directory entry; a folder can be opened but not read. -/
def ofEntry (schema : StreamSchema) : DirectoryEntry → Reading
  | .file octets => ofOctets schema octets
  | .folder => failed .unreadable

/-- The stream of all files of the family in a directory, in the order of their part ids. A
directory that does not exist cannot be listed. -/
def ofDirectory (schema : StreamSchema) : Option Directory → Except Fault Reading
  | none => .error .unreadable
  | some directory =>
    .ok (concat ((directory.parts schema.fileStem).map fun p => ofEntry schema p.2.2))

/-- The stream of one file of the family; a missing file is an empty stream. -/
def ofPart (schema : StreamSchema) (id : Nat) (directory : Option Directory) : Reading :=
  match directory.bind fun d => d.part? schema.fileStem id with
  | some entry => ofEntry schema entry
  | none => empty

/-- Whether the whole stream was read without a fault. -/
def check (reading : Reading) : Except Fault Unit :=
  match reading.failure with
  | some fault => .error fault
  | none => .ok ()

/-- The stream after its fault has been reported; a fault is reported once. -/
def reported (reading : Reading) : Reading :=
  { reading with failure := none }

end Reading

end CrawlAudit
