import CrawlAudit.Text.CaseFolding

/-!
# Sets of characters

The sets that one character of a text is looked up in. They are combined without being worked
out; whether a character is in a set is decided when it is asked.
-/

namespace CrawlAudit

inductive CharSet where
  | codes (set : CodeSet)
  | union (a b : CharSet)
  | intersection (a b : CharSet)
  | difference (a b : CharSet)
  | symmetricDifference (a b : CharSet)
  | complement (a : CharSet)
  /-- The characters that differ from one of the set at most in case. -/
  | folded (a : CharSet)
  /-- The characters that differ from one of the set at most in the case of an ASCII letter. -/
  | foldedAscii (a : CharSet)

namespace CharSet

/-- An ASCII letter in the other case; other characters stay as they are. -/
def otherAsciiCase (code : Nat) : Nat :=
  if 0x41 ≤ code ∧ code ≤ 0x5A then code + 0x20
  else if 0x61 ≤ code ∧ code ≤ 0x7A then code - 0x20
  else code

def contains : CharSet → Nat → Bool
  | .codes set, code => CodeSet.contains set code
  | .union a b, code => a.contains code || b.contains code
  | .intersection a b, code => a.contains code && b.contains code
  | .difference a b, code => a.contains code && !b.contains code
  | .symmetricDifference a b, code => a.contains code != b.contains code
  | .complement a, code => !a.contains code
  | .folded a, code => a.contains code || (CaseFolding.counterparts code).any a.contains
  | .foldedAscii a, code => a.contains code || a.contains (otherAsciiCase code)

def has (set : CharSet) (c : Char) : Bool :=
  set.contains c.toNat

def empty : CharSet :=
  .codes []

/-- The characters from one code point to another. -/
def range (first last : Nat) : CharSet :=
  .codes [⟨first, last, 1⟩]

def all : CharSet :=
  range 0 0x10FFFF

def single (c : Char) : CharSet :=
  range c.toNat c.toNat

def unionOf : List CharSet → CharSet
  | [] => empty
  | [set] => set
  | set :: sets => .union set (unionOf sets)

/-- The room that a range takes in an automaton on octets, roughly. -/
def rangeSize (range : Nat × Nat) : Nat :=
  if range.2 < 0x80 then 8 else 60

/-- The room that a set takes in an automaton on octets, roughly. -/
def size : CharSet → Nat
  | .codes set => ((CodeSet.ranges set).map rangeSize).sum
  | .union a b | .intersection a b | .difference a b | .symmetricDifference a b =>
    a.size + b.size
  | .complement a => a.size + 480
  | .folded a => 2 * a.size
  | .foldedAscii a => 2 * a.size

end CharSet

end CrawlAudit
