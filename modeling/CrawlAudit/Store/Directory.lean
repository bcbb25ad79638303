import CrawlAudit.Order
import CrawlAudit.Text.Decimal

/-!
# Directories

A directory is the list of its entries. Files of one family are numbered: a stem, the infix
`.txt.` and a part id.
-/

namespace CrawlAudit

inductive DirectoryEntry where
  | file (octets : List UInt8)
  | folder
  deriving DecidableEq

/-- The entries of a directory by name, in the order in which it lists them. -/
abbrev Directory :=
  List (String × DirectoryEntry)

namespace Directory

/-- The beginning of the names of a family's files. -/
def partStem (stem : String) : String :=
  stem ++ ".txt."

/-- The part id in the name of a file of the family. It fits 32 bits and may have a plus sign and
leading zeros. -/
def partId? (stem name : String) : Option Nat :=
  let start := (partStem stem).toList
  if start.isPrefixOf name.toList then Decimal.word? 32 (name.toList.drop start.length) else none

/-- The files of a family in the order of their part ids. -/
def parts (stem : String) (directory : Directory) : List (Nat × String × DirectoryEntry) :=
  Order.sort (fun a b => Order.integers a.1 b.1)
    (directory.filterMap fun e => (partId? stem e.1).map fun id => (id, e))

/-- The file of a family with the part id written without sign and zeros. -/
def part? (stem : String) (id : Nat) (directory : Directory) : Option DirectoryEntry :=
  directory.lookup (partStem stem ++ Decimal.text id)

end Directory

end CrawlAudit
