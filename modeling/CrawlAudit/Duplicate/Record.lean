import CrawlAudit.Cell.Basic

/-!
# Duplicate records

The kinds of content of a page, and what is recorded about one kind on one url.
-/

namespace CrawlAudit

inductive ContentKind where
  | title
  | h1
  | h2
  | description
  | h3
  deriving DecidableEq

namespace ContentKind

/-- The number of a kind in the files, by which records are ordered. -/
def id : ContentKind → Nat
  | .title => 1
  | .h1 => 2
  | .h2 => 3
  | .description => 4
  | .h3 => 5

def all : List ContentKind :=
  [.title, .h1, .h2, .description, .h3]

def ofId? (id : Int64) : Option ContentKind :=
  all.find? fun kind => Int64.ofNat kind.id == id

def name : ContentKind → String
  | .title => "title"
  | .h1 => "h1"
  | .h2 => "h2"
  | .description => "description"
  | .h3 => "h3"

def ofName? (name : String) : Option ContentKind :=
  all.find? fun kind => kind.name == name

/-- Whether contents of the kind are compared between urls. -/
def isMandatory : ContentKind → Bool
  | .title | .h1 | .description => true
  | .h2 | .h3 => false

end ContentKind

/-- What is recorded about one kind of content on one url: how many there are, how many urls
share the first one, whether this url is the smallest of them, and some of the others. -/
structure DuplicateRecord where
  urlId : Int64
  kind : ContentKind
  filled : Nat
  duplicates : Nat
  isFirst : Bool
  others : List Int64
  deriving DecidableEq

def DuplicateRecord.toRow (record : DuplicateRecord) : Row :=
  [.int record.urlId, .int (Int64.ofNat record.kind.id), .int (Int64.ofNat record.filled),
    .int (Int64.ofNat record.duplicates), .bool record.isFirst, .ofIntegers record.others]

end CrawlAudit
