import CrawlAudit.Cell.Order

/-!
# Filters

A filter is a tree of tests on the cells of a row, joined by `and` and `or`. What a test by pattern
finds is left to a language of patterns.
-/

namespace CrawlAudit

/-- How the cell of a field is compared with the value of a test. -/
inductive Predicate where
  | eq
  | re
  | starts
  | ends
  | gte
  | lte
  | gt
  | lt
  | contains
  | among
  deriving DecidableEq

namespace Predicate

def all : List Predicate :=
  [.eq, .re, .starts, .ends, .gte, .lte, .gt, .lt, .contains, .among]

def name : Predicate → String
  | .eq => "eq"
  | .re => "re"
  | .starts => "starts"
  | .ends => "ends"
  | .gte => "gte"
  | .lte => "lte"
  | .gt => "gt"
  | .lt => "lt"
  | .contains => "contains"
  | .among => "in"

/-- A text with its ASCII letters in lower case. -/
def foldCase (s : String) : String :=
  String.ofList (s.toList.map Char.toLower)

/-- The predicate of a name in any case. No other letter than an ASCII one becomes a letter of a
name in lower case. -/
def ofName? (s : String) : Option Predicate :=
  all.find? fun p => p.name == foldCase s

end Predicate

/-- What texts stand for as patterns: a text that is no pattern for nothing, every other one for the
texts in which it is found. -/
abbrev PatternLanguage : Type :=
  String → Option (String → Bool)

/-- A test on the cell of one field. A test by pattern has what finds the pattern that its value
stands for. -/
structure FilterLeaf where
  field : String
  predicate : Predicate
  value : Cell
  negate : Bool
  pattern : Option (String → Bool)

inductive FilterNode where
  | leaf (test : FilterLeaf)
  | all (children : List FilterNode)
  | any (children : List FilterNode)

/-- Whether a text has another one as a part. -/
def hasPart (part : List Char) : List Char → Bool
  | [] => part.isEmpty
  | c :: cs => part.isPrefixOf (c :: cs) || hasPart part cs

namespace FilterLeaf

/-- Whether the cell is a text, or shown as one, for which a test with a text value holds. -/
def textTest (test : List Char → List Char → Bool) (cell value : Cell) : Bool :=
  match cell.shownText?, value.text? with
  | some s, some v => test s.toList v.toList
  | _, _ => false

/-- Whether the comparison of the cell with the value gives one of some orders. -/
def orderTest (orders : List Ordering) (cell value : Cell) : Bool :=
  match cell.compare? value with
  | some o => orders.contains o
  | none => false

/-- Whether a list has the value as an item, or a text has it as a part. -/
def containsTest (cell value : Cell) : Bool :=
  match cell, value with
  | .list items, needle => items.any fun item => item.looselySame needle
  | .text s, .text part => hasPart part.toList s.toList
  | _, _ => false

/-- Whether the cell is one of the items of a list, or the value itself. -/
def amongTest (cell value : Cell) : Bool :=
  match value with
  | .list items => items.any fun item => cell.looselySame item
  | single => cell.looselySame single

/-- Whether the text of the cell has a match of a pattern. -/
def patternTest (pattern : Option (String → Bool)) (cell : Cell) : Bool :=
  match pattern, cell.shownText? with
  | some isFound, some s => isFound s
  | _, _ => false

/-- Whether the test holds for a cell before it is negated. -/
def holds (test : FilterLeaf) (cell : Cell) : Bool :=
  match test.predicate with
  | .eq => cell.looselySame test.value
  | .re => patternTest test.pattern cell
  | .starts => textTest (fun s v => v.isPrefixOf s) cell test.value
  | .ends => textTest (fun s v => v.isSuffixOf s) cell test.value
  | .gte => orderTest [.gt, .eq] cell test.value
  | .lte => orderTest [.lt, .eq] cell test.value
  | .gt => orderTest [.gt] cell test.value
  | .lt => orderTest [.lt] cell test.value
  | .contains => containsTest cell test.value
  | .among => amongTest cell test.value

def matchesCell (test : FilterLeaf) (cell : Cell) : Bool :=
  test.holds cell != test.negate

end FilterLeaf

namespace FilterNode

mutual

/-- Whether the cells of a row, by field, pass the filter. -/
def accepts (lookup : String → Cell) : FilterNode → Bool
  | .leaf test => test.matchesCell (lookup test.field)
  | .all children => acceptsAll lookup children
  | .any children => acceptsAny lookup children

def acceptsAll (lookup : String → Cell) : List FilterNode → Bool
  | [] => true
  | node :: nodes => accepts lookup node && acceptsAll lookup nodes

def acceptsAny (lookup : String → Cell) : List FilterNode → Bool
  | [] => false
  | node :: nodes => accepts lookup node || acceptsAny lookup nodes

end

mutual

def fields : FilterNode → List String
  | .leaf test => [test.field]
  | .all children => fieldsOfAll children
  | .any children => fieldsOfAll children

def fieldsOfAll : List FilterNode → List String
  | [] => []
  | node :: nodes => fields node ++ fieldsOfAll nodes

end

end FilterNode

/-- A filter with the document it was read from. -/
structure Filter where
  document : Json
  root : FilterNode

end CrawlAudit
