import CrawlAudit.Json.Number
import CrawlAudit.Json.Quoted

/-!
# Tokens of a document

Splits a text into the marks, texts, numbers and words of a document.
-/

namespace CrawlAudit.Json

inductive Token where
  | arrayOpen
  | arrayClose
  | objectOpen
  | objectClose
  | comma
  | colon
  | scalar (value : Json)

namespace Token

def isSpace (c : Char) : Bool :=
  c == ' ' || c == '\n' || c == '\t' || c == '\r'

def mark? : Char → Option Token
  | '[' => some .arrayOpen
  | ']' => some .arrayClose
  | '\x7b' => some .objectOpen
  | '\x7d' => some .objectClose
  | ',' => some .comma
  | ':' => some .colon
  | _ => none

def words : List (List Char × Json) :=
  [("null".toList, .null), ("true".toList, .bool true), ("false".toList, .bool false)]

/-- Reads the word at the front of a text. -/
def word? (cs : List Char) : Option (Json × List Char) :=
  words.findSome? fun w => if w.1.isPrefixOf cs then some (w.2, cs.drop w.1.length) else none

/-- Reads the number at the front of a text. -/
def number? : List Char → Option (Json × List Char)
  | '-' :: cs => do
    let (numeral, rest) ← Number.numeral? cs
    return (← numeral.value? true, rest)
  | cs => do
    let (numeral, rest) ← Number.numeral? cs
    return (← numeral.value? false, rest)

/-- Reads the text, number or word at the front of a text. -/
def scalar? : List Char → Option (Json × List Char)
  | '"' :: cs => (Quoted.read? .plain cs).map fun r => (.text (String.ofList r.1), r.2)
  | cs => (word? cs).or (number? cs)

def ofText? (cs : List Char) : Option (List Token) :=
  match cs with
  | [] => some []
  | c :: rest =>
    if isSpace c then ofText? rest
    else
      match mark? c with
      | some token => (ofText? rest).map (token :: ·)
      | none =>
        match scalar? (c :: rest) with
        | none => none
        | some (value, after) =>
          if after.length ≤ rest.length then (ofText? after).map (.scalar value :: ·) else none
termination_by cs.length

end Token

end CrawlAudit.Json
