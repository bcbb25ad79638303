import CrawlAudit.Json.Writer

/-!
# Faults

Why an operation can fail, and the text that says so. Faults of the storage below have no text of
their own here.
-/

namespace CrawlAudit

/-- The types a column of a stream may have. -/
inductive ColumnType where
  | int
  | float
  | text
  | bool
  | intList
  deriving DecidableEq

def ColumnType.name : ColumnType → String
  | .int => "int"
  | .float => "float"
  | .text => "str"
  | .bool => "bool"
  | .intList => "int list"

inductive FilterFault where
  | listExpected (operator : String)
  | emptyList
  | missingField
  | missingValue
  | unknownPredicate (name : String)
  | predicateNotText (found : Json)
  | negationNotBool (found : Json)
  | patternNotText
  | invalidPattern
  | unexpectedElement (found : Json)

def FilterFault.message : FilterFault → String
  | .listExpected operator => "'" ++ operator ++ "' expects a list"
  | .emptyList => "empty filter list"
  | .missingField => "leaf without a 'field' string"
  | .missingValue => "leaf without a 'value'"
  | .unknownPredicate name => "unknown predicate '" ++ name ++ "'"
  | .predicateNotText found => "predicate must be a string, got " ++ found.compact
  | .negationNotBool found => "'not' must be a boolean, got " ++ found.compact
  | .patternNotText => "'re' predicate expects a string value"
  | .invalidPattern => "invalid regex"
  | .unexpectedElement found => "unexpected filter element: " ++ found.compact

inductive RequestFault where
  | invalidSettings
  | fieldNotAllowed (field : String)
  | missingPatternColumn
  | missingRequestColumns

def RequestFault.message : RequestFault → String
  | .invalidSettings => "invalid query settings"
  | .fieldNotAllowed field => "Field " ++ field ++ " not allowed in query"
  | .missingPatternColumn => "table 'suggest' has no 'query' column"
  | .missingRequestColumns => "table 'requests' needs 'query' and 'string' columns"

/-- What is wrong with the configuration or the command line. -/
inductive ConfigFault where
  | unknownBackend (name : String)
  | missingSettingsPath
  | invalidPageCount (text : String)

def ConfigFault.message : ConfigFault → String
  | .unknownBackend name => "unknown backend '" ++ name ++ "'"
  | .missingSettingsPath =>
    "usage: crawl_query <settings.json> [--suggest] [--relevance]"
  | .invalidPageCount text => "invalid --urls-done value '" ++ text ++ "'"

inductive Fault where
  | cast (field raw : String) (expected : ColumnType)
  | missingColumn (stream : String) (expected found : Nat)
  | unknownStreamField (stream field : String)
  | malformedFilter (fault : FilterFault)
  | badRequest (fault : RequestFault)
  | missingTable (name : String)
  | config (fault : ConfigFault)
  /-- A file or directory cannot be read. -/
  | unreadable
  /-- A file is not a database, or there is no place for one. -/
  | databaseUnavailable
  /-- The sink's storage refused the records. -/
  | sinkRefused

/-- The text of a fault; the faults of the storage have none. -/
def Fault.message? : Fault → Option String
  | .cast field raw expected =>
    some ("Cannot cast value '" ++ raw ++ "' of field '" ++ field ++ "' to " ++ expected.name)
  | .missingColumn stream expected found =>
    some ("Row has " ++ Decimal.text found ++ " columns, stream '" ++ stream ++
      "' expects at least " ++ Decimal.text expected)
  | .unknownStreamField stream field =>
    some ("Unknown field '" ++ field ++ "' in stream '" ++ stream ++ "'")
  | .malformedFilter fault => some ("Filter not well formatted: " ++ fault.message)
  | .badRequest fault => some ("Bad request: " ++ fault.message)
  | .missingTable name => some ("Table '" ++ name ++ "' not found in store")
  | .config fault => some ("Configuration error: " ++ fault.message)
  | .unreadable | .databaseUnavailable | .sinkRefused => none

theorem Fault.bind_eq_ok {α β : Type} {x : Except Fault α} {next : α → Except Fault β} {b : β} :
    (x >>= next) = .ok b ↔ ∃ a, x = .ok a ∧ next a = .ok b := by
  cases x with
  | error fault =>
      constructor
      · intro h
        cases h
      · rintro ⟨a, ha, -⟩
        cases ha
  | ok a =>
      constructor
      · intro h
        exact ⟨a, rfl, h⟩
      · rintro ⟨a', ha, h⟩
        cases ha
        exact h

theorem Fault.pure_eq_ok {α : Type} {a b : α} : (pure a : Except Fault α) = .ok b ↔ a = b :=
  ⟨Except.ok.inj, congrArg Except.ok⟩

end CrawlAudit
