import CrawlAudit.Pattern.Brackets

/-!
# Pieces of patterns

A part of a pattern that has been read, with what it counts towards the limits on patterns: the
depth to which it is nested, and the room it takes in an automaton on octets, roughly.
-/

namespace CrawlAudit

/-- A part of a pattern. A directive changes the flags and cannot be repeated. -/
structure Piece where
  pattern : Pattern
  depth : Nat
  size : Nat
  isDirective : Bool

namespace Piece

def unit : Nat :=
  32

def empty : Piece :=
  ⟨.empty, 0, 0, false⟩

def directive : Piece :=
  ⟨.empty, 0, 0, true⟩

def ofSet (item : SetItem) : Piece :=
  ⟨.one item.set, item.depth, 2 * unit + item.set.size, false⟩

def ofAssertion (test : Assertion) : Piece :=
  ⟨.assertion test, 0, unit, false⟩

/-- The piece of a character. Without the Unicode flag a character past ASCII can be neither an
octet nor taken in any case. -/
def ofChar? (flags : PatternFlags) (c : Char) (octet : Bool) : Option Piece :=
  if !flags.unicode && 0x80 ≤ c.toNat && (octet || flags.ignoreCase) then none
  else some ⟨.one (flags.fold (.single c)), 0, unit * c.utf8Size, false⟩

def ofAtom? (flags : PatternFlags) : Atom → Option Piece
  | .literal c octet => ofChar? flags c octet
  | .set set => some (ofSet (.ofSet set))
  | .assertion test => some (ofAssertion test)

def maxDepth (pieces : List Piece) : Nat :=
  (pieces.map depth).foldl max 0

def totalSize (more : Nat) (pieces : List Piece) : Nat :=
  pieces.foldl (fun total piece => total + (piece.size + more)) 0

def sequence : List Piece → Piece
  | [] => empty
  | [piece] => piece
  | pieces =>
    ⟨(pieces.map pattern).foldr .sequence .empty, maxDepth pieces + 1, totalSize 0 pieces,
      false⟩

def branchPattern : List Pattern → Pattern
  | [] => .empty
  | [p] => p
  | p :: ps => .either p (branchPattern ps)

/-- Pieces any one of which is taken. -/
def alternatives : List Piece → Piece
  | [] => empty
  | [piece] => piece
  | pieces =>
    ⟨branchPattern (pieces.map pattern), maxDepth pieces + 1, totalSize unit pieces, false⟩

/-- A piece in parentheses; what is found by some of them is kept. -/
def group (piece : Piece) (keeps : Bool) : Piece :=
  ⟨piece.pattern, piece.depth + 1, piece.size + (if keeps then 2 * unit else 0), false⟩

/-- The room of a repeated pattern. One that takes up no characters is not copied. -/
def repeatedSize (piece : Piece) (least : Nat) (most : Option Nat) : Nat :=
  if piece.pattern.isWidthless then piece.size + unit
  else
    match most with
    | some m => m * piece.size + (m - least) * unit
    | none => max least 1 * piece.size + unit

def repeated (piece : Piece) (least : Nat) (most : Option Nat) : Piece :=
  ⟨.repeated piece.pattern least most, piece.depth + 1, piece.repeatedSize least most, false⟩

end Piece

end CrawlAudit
