import CrawlAudit.Order
import CrawlAudit.Text.Hexadecimal

/-!
# Tables of code points

Sets and maps of characters in the written form of the tables of this library. A table is a text
of items with blanks or line breaks between them. An item is a code point (`b5`), a range
(`41-5a`) or a range with a step (`100-12e/2`), all in hexadecimal; in a map the code points that
the first one goes to follow (`41-5a>61`, `fb00>66+66`), and the others go as far.
-/

namespace CrawlAudit

/-- The code points from `first` to `last` at equal steps. -/
structure CodeRun where
  first : Nat
  last : Nat
  step : Nat

namespace CodeRun

def contains (run : CodeRun) (code : Nat) : Bool :=
  run.first ≤ code && code ≤ run.last && (code - run.first) % run.step == 0

/-- The unbroken ranges of a run, as their first and last code points. -/
def ranges (run : CodeRun) : List (Nat × Nat) :=
  if run.step = 1 then [(run.first, run.last)]
  else
    (List.range ((run.last - run.first) / run.step + 1)).map fun i =>
      (run.first + i * run.step, run.first + i * run.step)

def ofChars (item : List Char) : CodeRun :=
  let (range, step) := item.span (· != '/')
  let (first, last) := range.span (· != '-')
  { first := Hexadecimal.value first
    last := Hexadecimal.value (if last.isEmpty then first else last.drop 1)
    step := if step.isEmpty then 1 else Hexadecimal.value (step.drop 1) }

end CodeRun

def tableItems (text : String) : List (List Char) :=
  (text.toList.splitOnP Char.isWhitespace).filter fun item => !item.isEmpty

abbrev CodeSet :=
  List CodeRun

namespace CodeSet

def contains (set : CodeSet) (code : Nat) : Bool :=
  set.any fun run => run.contains code

def has (set : CodeSet) (c : Char) : Bool :=
  set.contains c.toNat

/-- The ranges of a list in ascending order, those that touch made into one. -/
def joinRanges : List (Nat × Nat) → List (Nat × Nat)
  | [] => []
  | range :: ranges =>
    match joinRanges ranges with
    | next :: others =>
      if next.1 ≤ range.2 + 1 then (range.1, max range.2 next.2) :: others
      else range :: next :: others
    | [] => [range]

/-- The unbroken ranges of a set. -/
def ranges (set : CodeSet) : List (Nat × Nat) :=
  joinRanges (Order.sort (fun a b => Order.integers a.1 b.1) (set.flatMap CodeRun.ranges))

def ofText (text : String) : CodeSet :=
  (tableItems text).map CodeRun.ofChars

end CodeSet

/-- A map from code points to code points: runs with what their first code points go to. -/
abbrev CodeMap :=
  List (CodeRun × List Nat)

namespace CodeMap

def get? (map : CodeMap) (code : Nat) : Option (List Nat) :=
  (map.find? fun entry => entry.1.contains code).map fun entry =>
    entry.2.map fun target => target + (code - entry.1.first)

/-- The code points that go to a single one. -/
def sources (map : CodeMap) (code : Nat) : List Nat :=
  map.filterMap fun entry =>
    match entry.2 with
    | [target] =>
      let source := entry.1.first + (code - target)
      if target ≤ code && entry.1.contains source then some source else none
    | _ => none

/-- What a character goes to; one that is not in the map stays as it is. -/
def apply (map : CodeMap) (c : Char) : List Char :=
  match map.get? c.toNat with
  | some codes => codes.map Char.ofNat
  | none => [c]

def entryOfChars (item : List Char) : CodeRun × List Nat :=
  let (run, targets) := item.span (· != '>')
  (CodeRun.ofChars run, ((targets.drop 1).splitOn '+').map Hexadecimal.value)

def ofText (text : String) : CodeMap :=
  (tableItems text).map entryOfChars

end CodeMap

end CrawlAudit
