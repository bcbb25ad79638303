import CrawlAudit.Json.Token

/-!
# Reading documents

A document is read from its tokens with a stack of the arrays and objects that are open. The
number of open ones is limited.
-/

namespace CrawlAudit.Json

/-- An open array with its items so far, last first, or an open object with its members so far
and the key of the value being read. -/
inductive Frame where
  | array (reversed : List Json)
  | object (members : Members) (key : String)

/-- What may come next, and the open arrays and objects, innermost first. -/
inductive Progress where
  /-- A value. -/
  | value (stack : List Frame)
  /-- A value or the end of the array that has just been opened. -/
  | firstItem (stack : List Frame)
  /-- A key or, where `first` holds, the end of the object that has just been opened. -/
  | memberKey (members : Members) (first : Bool) (stack : List Frame)
  | colon (members : Members) (key : String) (stack : List Frame)
  /-- A comma or the end of the innermost frame. -/
  | separator (frame : Frame) (stack : List Frame)
  /-- Nothing: the document is complete. -/
  | finished (document : Json)

namespace Progress

/-- Puts a finished value where it belongs. -/
def complete (value : Json) : List Frame → Progress
  | [] => .finished value
  | .array xs :: stack => .separator (.array (value :: xs)) stack
  | .object ms key :: stack => .separator (.object (insertMember key value ms) key) stack

/-- A token where a value is due. -/
def beginValue (limit : Nat) (stack : List Frame) : Token → Option Progress
  | .scalar v => some (complete v stack)
  | .arrayOpen => if stack.length < limit then some (.firstItem stack) else none
  | .objectOpen => if stack.length < limit then some (.memberKey [] true stack) else none
  | _ => none

/-- One more token; none where it cannot stand. -/
def step (limit : Nat) : Progress → Token → Option Progress
  | .value stack, token => beginValue limit stack token
  | .firstItem stack, .arrayClose => some (complete (.array []) stack)
  | .firstItem stack, token => beginValue limit (.array [] :: stack) token
  | .memberKey members true stack, .objectClose => some (complete (.object members) stack)
  | .memberKey members _ stack, .scalar (.text key) => some (.colon members key stack)
  | .colon members key stack, .colon => some (.value (.object members key :: stack))
  | .separator (.array xs) stack, .comma => some (.value (.array xs :: stack))
  | .separator (.array xs) stack, .arrayClose => some (complete (.array xs.reverse) stack)
  | .separator (.object ms _) stack, .comma => some (.memberKey ms false stack)
  | .separator (.object ms _) stack, .objectClose => some (complete (.object ms) stack)
  | _, _ => none

end Progress

def resume? (limit : Nat) : Progress → List Token → Option Json
  | .finished document, [] => some document
  | _, [] => none
  | progress, token :: tokens =>
    match progress.step limit token with
    | some next => resume? limit next tokens
    | none => none

/-- The greatest number of arrays and objects that may be open at once in a settings or cell
document. -/
def nestingLimit : Nat :=
  127

/-- Reads a document with at most `limit` open arrays and objects. -/
def readWithin? (limit : Nat) (text : String) : Option Json :=
  (Token.ofText? text.toList).bind (resume? limit (.value []))

def read? (text : String) : Option Json :=
  readWithin? nestingLimit text

end CrawlAudit.Json
