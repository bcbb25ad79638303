import CrawlAudit.Filter.Reader
import CrawlAudit.Json.Reader

/-!
# Query settings

The settings of a query are read from a document: an object, or a list of the same elements in a
fixed order, in which a filter is checked but not kept. They are written as an object that reads
back.
-/

namespace CrawlAudit

inductive Direction where
  | ascending
  | descending
  deriving DecidableEq

namespace Direction

def name : Direction → String
  | .ascending => "ASC"
  | .descending => "DESC"

/-- The direction of a name, all in one case. -/
def ofName? (s : String) : Option Direction :=
  if s = "ASC" ∨ s = "asc" then some .ascending
  else if s = "DESC" ∨ s = "desc" then some .descending
  else none

/-- Reads a direction: its name, or an object with the name as its one key and null under it. -/
def read? : Json → Option Direction
  | .text s => ofName? s
  | .object [(key, .null)] => ofName? key
  | _ => none

def apply (direction : Direction) (o : Ordering) : Ordering :=
  match direction with
  | .ascending => o
  | .descending => o.swap

end Direction

/-- What is asked of a query. Without fields all counters are shown, and `target` is the counter
by which patterns are ranked. -/
structure QuerySettings where
  fields : Option (List String)
  filter : Option Filter
  groupBy : Option (List String)
  sort : Option (List (String × Direction))
  target : String
  displayChildren : Bool

namespace QuerySettings

def default : QuerySettings where
  fields := none
  filter := none
  groupBy := none
  sort := none
  target := "pages_nb"
  displayChildren := true

/-- Reads an optional element: null stands for none. -/
def readOptional? {α : Type} (read? : Json → Option α) : Json → Option (Option α)
  | .null => some none
  | document => (read? document).map some

def readNames? (document : Json) : Option (List String) :=
  document.items?.bind fun items => items.mapM Json.text?

def readSortPair? : Json → Option (String × Direction)
  | .array [.text field, direction] => (Direction.read? direction).map fun d => (field, d)
  | _ => none

def readSort? (document : Json) : Option (List (String × Direction)) :=
  document.items?.bind fun items => items.mapM readSortPair?

/-- Reads the elements but the filter; a missing one has its default. -/
def readElements? (fields groupBy sort target displayChildren : Option Json) :
    Option QuerySettings := do
  let fields ← readOptional? readNames? (fields.getD .null)
  let groupBy ← readOptional? readNames? (groupBy.getD .null)
  let sort ← readOptional? readSort? (sort.getD .null)
  let target ← (target.getD (.text default.target)).text?
  let displayChildren ← (displayChildren.getD (.bool default.displayChildren)).bool?
  return ⟨fields, none, groupBy, sort, target, displayChildren⟩

def readFilter (patterns : PatternLanguage) : Option Json → Except Fault (Option Filter)
  | none | some .null => .ok none
  | some document => (Filter.read document patterns).map some

/-- Reads an object; other members are ignored. -/
def readObject? (members : Json.Members) : Option QuerySettings :=
  readElements? (Json.member? "fields" members) (Json.member? "group_by" members)
    (Json.member? "sort" members) (Json.member? "target_field" members)
    (Json.member? "display_children" members)

/-- Whether an element of a list is a filter or null. -/
def isFilterElement (patterns : PatternLanguage) (element : Option Json) : Bool :=
  match readFilter patterns element with
  | .ok _ => true
  | .error _ => false

/-- Reads a list of at most six elements: fields, filter, grouping, sorting, target, children. -/
def readList? (patterns : PatternLanguage) (items : List Json) : Option QuerySettings :=
  if 6 < items.length || !isFilterElement patterns items[1]? then none
  else readElements? items[0]? items[2]? items[3]? items[4]? items[5]?

def orInvalid : Option QuerySettings → Except Fault QuerySettings
  | some settings => .ok settings
  | none => .error (.badRequest .invalidSettings)

/-- Reads a settings document. A malformed filter in an object is reported before anything else
is looked at. -/
def ofDocument (patterns : PatternLanguage) : Json → Except Fault QuerySettings
  | .object members => do
    let filter ← readFilter patterns (Json.member? "filters" members)
    let settings ← orInvalid (readObject? members)
    return { settings with filter := filter }
  | .array items => orInvalid (readList? patterns items)
  | _ => .error (.badRequest .invalidSettings)

def ofText (text : String) (patterns : PatternLanguage := Pattern.language) :
    Except Fault QuerySettings :=
  match Json.read? text with
  | some document => ofDocument patterns document
  | none => .error (.badRequest .invalidSettings)

def namesDocument (names : List String) : Json :=
  .array (names.map .text)

def sortDocument (entries : List (String × Direction)) : Json :=
  .array (entries.map fun e => .array [.text e.1, .text e.2.name])

def optionalDocument {α : Type} (write : α → Json) : Option α → Json
  | some a => write a
  | none => .null

def toDocument (settings : QuerySettings) : Json :=
  .ofMembers
    [("fields", optionalDocument namesDocument settings.fields),
      ("filters", optionalDocument Filter.document settings.filter),
      ("group_by", optionalDocument namesDocument settings.groupBy),
      ("sort", optionalDocument sortDocument settings.sort),
      ("target_field", .text settings.target),
      ("display_children", .bool settings.displayChildren)]

/-- The fields that are named outside the filter, in the order in which they are checked. -/
def referencedFields (settings : QuerySettings) : List String :=
  settings.fields.getD [] ++ settings.groupBy.getD [] ++
    (settings.sort.getD []).map Prod.fst

def filterFields (settings : QuerySettings) : List String :=
  match settings.filter with
  | some filter => filter.root.fields
  | none => []

/-- Whether nothing differs from the default. -/
def isDefault (settings : QuerySettings) : Bool :=
  settings.fields.isNone && settings.filter.isNone && settings.groupBy.isNone &&
    settings.sort.isNone && settings.target == default.target &&
    settings.displayChildren == default.displayChildren

end QuerySettings

end CrawlAudit
