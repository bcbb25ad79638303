import CrawlAudit.Binary64.Decimal
import CrawlAudit.Json.Basic
import CrawlAudit.Json.Quoted

/-!
# Writing documents

The compact form has no space between its tokens. The laid out form puts every item and member
on a line of its own, two spaces deeper than the array or object it belongs to.
-/

namespace CrawlAudit.Json

/-- A number as it stands in a document; a double that is not finite has no number. -/
def floatText (x : Binary64) : List Char :=
  if x.isFinite then x.documentText.toList else "null".toList

def joinWith (separator : List Char) : List (List Char) → List Char
  | [] => []
  | [x] => x
  | x :: xs => x ++ separator ++ joinWith separator xs

mutual

def compactChars : Json → List Char
  | .null => "null".toList
  | .bool b => if b then "true".toList else "false".toList
  | .int n => Decimal.ofInt n
  | .float x => floatText x
  | .text s => Quoted.encode s
  | .array items => '[' :: joinWith [','] (compactItems items) ++ [']']
  | .object members => '\x7b' :: joinWith [','] (compactMembers members) ++ ['\x7d']

def compactItems : List Json → List (List Char)
  | [] => []
  | x :: xs => compactChars x :: compactItems xs

def compactMembers : List (String × Json) → List (List Char)
  | [] => []
  | (k, v) :: ms => (Quoted.encode k ++ ':' :: compactChars v) :: compactMembers ms

end

def compact (document : Json) : String :=
  String.ofList document.compactChars

def lineBreak (depth : Nat) : List Char :=
  '\n' :: List.replicate (2 * depth) ' '

/-- Items between two marks, each on a line of its own. -/
def laidOutBlock (first last : Char) (depth : Nat) (items : List (List Char)) : List Char :=
  if items.isEmpty then [first, last]
  else
    first :: lineBreak (depth + 1) ++ joinWith (',' :: lineBreak (depth + 1)) items ++
      lineBreak depth ++ [last]

mutual

def laidOutChars (depth : Nat) : Json → List Char
  | .array items => laidOutBlock '[' ']' depth (laidOutItems (depth + 1) items)
  | .object members => laidOutBlock '\x7b' '\x7d' depth (laidOutMembers (depth + 1) members)
  | .null => "null".toList
  | .bool b => if b then "true".toList else "false".toList
  | .int n => Decimal.ofInt n
  | .float x => floatText x
  | .text s => Quoted.encode s

def laidOutItems (depth : Nat) : List Json → List (List Char)
  | [] => []
  | x :: xs => laidOutChars depth x :: laidOutItems depth xs

def laidOutMembers (depth : Nat) : List (String × Json) → List (List Char)
  | [] => []
  | (k, v) :: ms => (Quoted.encode k ++ ": ".toList ++ laidOutChars depth v) ::
      laidOutMembers depth ms

end

def laidOut (document : Json) : String :=
  String.ofList (laidOutChars 0 document)

end CrawlAudit.Json
