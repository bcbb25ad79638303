import CrawlAudit.Pattern.Escape

/-!
# Sets in brackets

Characters, ranges, named sets and sets in inner brackets are joined; operators combine what
stands before and after them, from left to right.
-/

namespace CrawlAudit

inductive SetOperator where
  | intersection
  | difference
  | symmetricDifference
  deriving DecidableEq

namespace SetOperator

def apply : SetOperator → CharSet → CharSet → CharSet
  | .intersection => .intersection
  | .difference => .difference
  | .symmetricDifference => .symmetricDifference

/-- The operator that two equal characters are. -/
def ofChar? : Char → Option SetOperator
  | '&' => some .intersection
  | '-' => some .difference
  | '~' => some .symmetricDifference
  | _ => none

end SetOperator

structure SetItem where
  set : CharSet
  depth : Nat

namespace SetItem

def ofSet (set : CharSet) : SetItem :=
  ⟨set, 0⟩

def join : List SetItem → SetItem
  | [] => ofSet .empty
  | [item] => item
  | items => ⟨.unionOf (items.map set), (items.map depth).foldl max 0 + 1⟩

end SetItem

/-- A bracket that has been opened: what stands before the last operator, and the items after it,
last first. -/
structure OpenSet where
  negated : Bool
  left : Option (SetItem × SetOperator)
  items : List SetItem

namespace OpenSet

def add (item : SetItem) (opened : OpenSet) : OpenSet :=
  { opened with items := item :: opened.items }

/-- What has been read so far as one item. -/
def combined (flags : PatternFlags) (opened : OpenSet) : SetItem :=
  let right := SetItem.join opened.items.reverse
  match opened.left with
  | none => right
  | some (left, op) =>
    ⟨op.apply (flags.fold left.set) (flags.fold right.set), max left.depth right.depth + 1⟩

/-- Puts an operator after what has been read so far. -/
def operate (flags : PatternFlags) (op : SetOperator) (opened : OpenSet) : OpenSet :=
  ⟨opened.negated, some (opened.combined flags, op), []⟩

def close? (flags : PatternFlags) (opened : OpenSet) : Option SetItem :=
  let item := opened.combined flags
  (flags.negate? opened.negated (flags.fold item.set)).map fun set => ⟨set, item.depth + 1⟩

/-- Opens a bracket. Minus signs at its front are characters, and so is a closing bracket where
nothing else comes before it. -/
def read? (flags : PatternFlags) (cs : List Char) : Option (OpenSet × List Char) :=
  let cs := flags.skip cs
  let negated := cs.head? == some '^'
  let (minuses, rest) := flags.span (· == '-') (if negated then flags.skip (cs.drop 1) else cs)
  let items := minuses.map fun c => SetItem.ofSet (.single c)
  match rest with
  | [] => none
  | ']' :: rest' =>
    if items.isEmpty then some (⟨negated, none, [.ofSet (.single ']')]⟩, rest')
    else some (⟨negated, none, items⟩, rest)
  | _ => some (⟨negated, none, items⟩, rest)

def readAsciiClass? (flags : PatternFlags) : List Char → Option (Option CharSet × List Char)
  | ':' :: cs =>
    let negated := cs.head? == some '^'
    let (name, rest) := (if negated then cs.drop 1 else cs).span (· != ':')
    match rest, CharSet.asciiClasses.lookup (String.ofList name) with
    | ':' :: ']' :: after, some codes =>
      some (flags.negate? negated (flags.fold (.codes codes)), after)
    | _, _ => none
  | _ => none

def readAtom? (flags : PatternFlags) : List Char → Option (Atom × List Char)
  | [] => none
  | '\\' :: rest => Atom.readEscape? flags rest
  | c :: rest => some (.literal c false, rest)

/-- The set of an atom; what is asked of a place is none. -/
def atomSet? (flags : PatternFlags) : Atom → Option CharSet
  | .literal c _ => (flags.code? c).map fun code => .range code code
  | .set set => some set
  | .assertion _ => none

/-- The set of a range between two characters. -/
def rangeSet? (flags : PatternFlags) : Atom → Atom → Option CharSet
  | .literal a _, .literal b _ => do
    let first ← flags.code? a
    let last ← flags.code? b
    guard (first ≤ last)
    return .range first last
  | _, _ => none

/-- The character that counts next, when the sign of a comment is passed over by itself. -/
def peek? (flags : PatternFlags) (cs : List Char) : Option Char :=
  if !flags.verbose then cs.head?
  else
    match cs.dropWhile Blank.isBlank with
    | '#' :: rest => (rest.dropWhile Blank.isBlank).head?
    | rest => rest.head?

/-- Reads a character, a set or a range. A minus sign before a closing bracket or another minus
sign does not make a range. -/
def readItem? (flags : PatternFlags) (cs : List Char) : Option (SetItem × List Char) := do
  let (first, rest) ← readAtom? flags cs
  match flags.skip rest with
  | [] => none
  | '-' :: after =>
    if (peek? flags after).any [']', '-'].contains then
      return (.ofSet (← atomSet? flags first), '-' :: after)
    else
      let (last, rest) ← readAtom? flags (flags.skip after)
      return (.ofSet (← rangeSet? flags first last), rest)
  | rest => return (.ofSet (← atomSet? flags first), rest)

end OpenSet

end CrawlAudit
