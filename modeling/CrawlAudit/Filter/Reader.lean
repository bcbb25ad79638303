import CrawlAudit.Fault
import CrawlAudit.Filter.Basic
import CrawlAudit.Pattern.Reader
import CrawlAudit.Pattern.Search

/-!
# Reading filters

An object with one key, `and` or `or`, joins the filters in its list; any other object is a test.
A list stands for its elements joined by `or`, unless its first element joins filters itself:
then the others are joined to those. Keys are found in any case, the first in byte order where
several fit. Which texts are patterns is up to the language that the reader is given.
-/

namespace CrawlAudit

/-- The patterns of this library. -/
def Pattern.language : PatternLanguage :=
  fun text => (Pattern.read? text).map Pattern.isMatch

/-- How the children of a node are joined. -/
inductive Operator where
  | conjunction
  | disjunction
  deriving DecidableEq

namespace Operator

def name : Operator → String
  | .conjunction => "and"
  | .disjunction => "or"

def ofKey? (key : String) : Option Operator :=
  [conjunction, disjunction].find? fun op => Predicate.foldCase key == op.name

def join : Operator → List FilterNode → FilterNode
  | .conjunction, children => .all children
  | .disjunction, children => .any children

end Operator

def Predicate.ofName (s : String) : Except Fault Predicate :=
  match Predicate.ofName? s with
  | some p => .ok p
  | none => .error (.malformedFilter (.unknownPredicate s))

namespace FilterLeaf

/-- The first member whose key is the given one in any case. -/
def find? (key : String) (members : Json.Members) : Option Json :=
  (members.find? fun m => Predicate.foldCase m.1 == key).map Prod.snd

/-- The predicate of a test with the given value. A test without one is by equality, or by
membership when its value is a list. -/
def readPredicate (value : Json) : Option Json → Except Fault Predicate
  | none | some .null => .ok (if value.items?.isSome then .among else .eq)
  | some (.text name) => Predicate.ofName name
  | some found => .error (.malformedFilter (.predicateNotText found))

def readNegation : Option Json → Except Fault Bool
  | none | some .null => .ok false
  | some (.bool b) => .ok b
  | some found => .error (.malformedFilter (.negationNotBool found))

def readPattern (patterns : PatternLanguage) (predicate : Predicate) (value : Cell) :
    Except Fault (Option (String → Bool)) :=
  if predicate = .re then
    match value.text? with
    | none => .error (.malformedFilter .patternNotText)
    | some s =>
      match patterns s with
      | some isFound => .ok (some isFound)
      | none => .error (.malformedFilter .invalidPattern)
  else .ok none

def readField (members : Json.Members) : Except Fault String :=
  match (find? "field" members).bind Json.text? with
  | some field => .ok field
  | none => .error (.malformedFilter .missingField)

def readValue (members : Json.Members) : Except Fault Json :=
  match find? "value" members with
  | some value => .ok value
  | none => .error (.malformedFilter .missingValue)

def read (patterns : PatternLanguage) (members : Json.Members) : Except Fault FilterLeaf := do
  let field ← readField members
  let raw ← readValue members
  let value := Cell.ofJson raw
  let predicate ← readPredicate raw (find? "predicate" members)
  let negate ← readNegation (find? "not" members)
  let pattern ← readPattern patterns predicate value
  return ⟨field, predicate, value, negate, pattern⟩

end FilterLeaf

/-- What a document reads as: filters joined by the operator it names, or a filter in which no
operator can take more. -/
inductive FilterHead where
  | joined (op : Operator) (children : List FilterNode)
  | single (node : FilterNode)

namespace FilterHead

def node : FilterHead → FilterNode
  | .joined op children => op.join children
  | .single n => n

/-- The filter of a list with the given first element. -/
def extend (others : List FilterNode) : FilterHead → FilterNode
  | .joined op children => op.join (children ++ others)
  | .single n => .any (n :: others)

end FilterHead

namespace FilterNode

section

variable (patterns : PatternLanguage)

mutual

/-- Reads a filter document as far as its outermost operator. -/
def readHead : Json → Except Fault FilterHead
  | .object members => readObject members
  | .array items => readList items
  | found => .error (.malformedFilter (.unexpectedElement found))

def readObject : Json.Members → Except Fault FilterHead
  | [member] => readMember member
  | members => do
    let test ← FilterLeaf.read patterns members
    return .single (.leaf test)

def readMember : String × Json → Except Fault FilterHead
  | (key, value) =>
    match Operator.ofKey? key with
    | some op => do
      let children ← readOperands op value
      return .joined op children
    | none => do
      let test ← FilterLeaf.read patterns [(key, value)]
      return .single (.leaf test)

def readOperands (op : Operator) : Json → Except Fault (List FilterNode)
  | .array items => readAll items
  | _ => .error (.malformedFilter (.listExpected op.name))

def readAll : List Json → Except Fault (List FilterNode)
  | [] => .ok []
  | item :: items => do
    let head ← readHead item
    let nodes ← readAll items
    return head.node :: nodes

/-- Reads a list; its first element comes last. -/
def readList : List Json → Except Fault FilterHead
  | [] => .error (.malformedFilter .emptyList)
  | first :: rest => do
    let others ← readAll rest
    let head ← readHead first
    return .single (head.extend others)

end

def read (document : Json) : Except Fault FilterNode :=
  (readHead patterns document).map FilterHead.node

end

end FilterNode

def Filter.read (document : Json) (patterns : PatternLanguage := Pattern.language) :
    Except Fault Filter :=
  (FilterNode.read patterns document).map fun root => ⟨document, root⟩

end CrawlAudit
