import CrawlAudit.Cell.Basic
import CrawlAudit.Fault

/-!
# Field catalogs

The dimensions by which counters can be grouped and the counters themselves. The name of a
counter is a path with dots, and a prefix of paths stands for all counters under it.
-/

namespace CrawlAudit

/-- The known fields. Fields in `lists` are shown as lists. -/
structure FieldCatalog where
  dimensions : List String
  counters : List String
  lists : List String

/-- What happens to a query that names an unknown field. -/
inductive FieldCheck where
  | strict
  | advisory
  deriving DecidableEq

namespace FieldCatalog

def crawl : FieldCatalog where
  dimensions := ["host", "resource_type", "content_type", "depth", "http_code", "index", "follow"]
  counters :=
    ["pages_nb", "pages_code_ok", "pages_code_ko", "delay_lt_500ms", "delay_from500ms_to_1s",
      "delay_from_1s_to_2s", "delay_gte_2s", "inlinks_nb", "outlinks_internal_nb",
      "outlinks_external_nb", "metadata.title.filled", "metadata.title.not_filled",
      "metadata.title.unique", "metadata.title.duplicate", "metadata.h1.filled",
      "metadata.h1.not_filled", "metadata.h1.unique", "metadata.h1.duplicate",
      "metadata.description.filled", "metadata.description.not_filled",
      "metadata.description.unique", "metadata.description.duplicate", "metadata.h2.filled",
      "metadata.h3.filled", "error_links.3xx.nb", "error_links.3xx.urls", "error_links.4xx.nb",
      "error_links.4xx.urls", "error_links.5xx.nb", "error_links.5xx.urls"]
  lists := ["error_links.3xx.urls", "error_links.4xx.urls", "error_links.5xx.urls"]

def isDimension (catalog : FieldCatalog) (field : String) : Bool :=
  catalog.dimensions.contains field

def isList (catalog : FieldCatalog) (field : String) : Bool :=
  catalog.lists.contains field

/-- Whether a counter lies under a field: it goes on with a dot. -/
def isUnder (field counter : String) : Bool :=
  (field.toList ++ ['.']).isPrefixOf counter.toList

def children (catalog : FieldCatalog) (field : String) : List String :=
  catalog.counters.filter (isUnder field)

def hasChildren (catalog : FieldCatalog) (field : String) : Bool :=
  !(catalog.children field).isEmpty

/-- Whether a field is a dimension, a counter, or a prefix of counters. -/
def isKnown (catalog : FieldCatalog) (field : String) : Bool :=
  catalog.isDimension field || catalog.counters.contains field || catalog.hasChildren field

/-- The fields with every prefix replaced by the counters under it. -/
def expand (catalog : FieldCatalog) (fields : List String) : List String :=
  fields.flatMap fun field =>
    if catalog.hasChildren field then catalog.children field else [field]

/-- Checks fields against the catalog and the columns of a table; the first unknown one is
refused by a strict check. -/
def validate (catalog : FieldCatalog) (fields columns : List String) (check : FieldCheck) :
    Except Fault Unit :=
  match check, fields.find? fun f => !(catalog.isKnown f || columns.contains f) with
  | .strict, some field => .error (.badRequest (.fieldNotAllowed field))
  | _, _ => .ok ()

/-- The number a cell is shown as: what is not a finite number is zero. -/
def shownNumber (value : Option Cell) : Int64 :=
  match value with
  | some c => c.integer?.getD 0
  | none => 0

/-- The list a cell is shown as: a single value is a list of one. -/
def shownList (value : Option Cell) : Json :=
  match value with
  | some (.list items) => .array (items.map Cell.toJson)
  | some .null | none => .array []
  | some c => .array [c.toJson]

def showCounter (catalog : FieldCatalog) (field : String) (value : Option Cell) : Json :=
  if catalog.isList field then shownList value else .int (shownNumber value).toInt

/-- The form in which a dimension is shown: a double as its integer part. -/
def showDimension : Cell → Json
  | .float x => .int (shownNumber (some (.float x))).toInt
  | c => c.toJson

end FieldCatalog

end CrawlAudit
