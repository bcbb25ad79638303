import CrawlAudit.Pattern.Piece
import CrawlAudit.Text.Decimal

/-!
# Reading patterns

A pattern is read in steps, each of which uses up at least one character, with the groups and the
brackets that are open. The depth and the size of what has been read are limited.
-/

namespace CrawlAudit

/-- A group that has been opened: whether what it finds is kept, its flags at this point, the
branches that are complete and the pieces of the one being read, last first. -/
structure OpenGroup where
  keeps : Bool
  flags : PatternFlags
  branches : List Piece
  pieces : List Piece

namespace OpenGroup

def opening (keeps : Bool) (flags : PatternFlags) : OpenGroup :=
  ⟨keeps, flags, [], []⟩

def add (piece : Piece) (opened : OpenGroup) : OpenGroup :=
  { opened with pieces := piece :: opened.pieces }

/-- Ends the branch that is being read. -/
def branch (opened : OpenGroup) : OpenGroup :=
  { opened with
    branches := .sequence opened.pieces.reverse :: opened.branches
    pieces := [] }

def content (opened : OpenGroup) : Piece :=
  .alternatives opened.branch.branches.reverse

/-- Repeats the last piece, if there is one and it is no directive. -/
def repeat? (least : Nat) (most : Option Nat) (opened : OpenGroup) : Option OpenGroup :=
  match opened.pieces with
  | piece :: pieces =>
    if piece.isDirective then none
    else some { opened with pieces := piece.repeated least most :: pieces }
  | [] => none

end OpenGroup

/-- How far a pattern has been read: the innermost group and those around it, the brackets that
are open, and the names of groups. -/
structure PatternReader where
  group : OpenGroup
  outer : List OpenGroup
  brackets : List OpenSet
  names : List (List Char)

namespace PatternReader

/-- A reader and the text it has yet to read. -/
abbrev Step :=
  PatternReader × List Char

def flags (reader : PatternReader) : PatternFlags :=
  reader.group.flags

def add (piece : Piece) (reader : PatternReader) : PatternReader :=
  { reader with group := reader.group.add piece }

def openGroup (keeps : Bool) (flags : PatternFlags) (reader : PatternReader) : PatternReader :=
  { reader with group := .opening keeps flags, outer := reader.group :: reader.outer }

/-- Whether a character may stand in the name of a group. -/
def isNameChar (first : Bool) (c : Char) : Bool :=
  if first then c == '_' || Property.alphabetic.has c
  else ['_', '.', '[', ']'].contains c || Property.alphanumeric.has c

def isName : List Char → Bool
  | [] => false
  | c :: cs => isNameChar true c && cs.all (isNameChar false)

/-- Opens a group with a name that no other group has. -/
def openNamed? (reader : PatternReader) (cs : List Char) : Option Step :=
  match cs.span (· != '>') with
  | (name, _ :: rest) =>
    if isName name && !reader.names.contains name then
      some ({ reader.openGroup true reader.flags with names := name :: reader.names }, rest)
    else none
  | _ => none

/-- Reads flags: for the rest of the group, or for a group of their own. -/
def readFlags? (reader : PatternReader) (cs : List Char) : Option Step := do
  let (letters, rest) := cs.span fun c => c != ':' && c != ')'
  let flags ← reader.flags.read? letters
  match rest with
  | ':' :: rest => return (reader.openGroup false flags, rest)
  | _ :: rest =>
    guard !letters.isEmpty
    return ({ reader with group := { reader.group with flags := flags }.add .directive }, rest)
  | [] => none

/-- Reads what follows an opening parenthesis. Nothing can be asked of the text around a place. -/
def readGroup? (reader : PatternReader) (cs : List Char) : Option Step :=
  match reader.flags.skip cs with
  | '?' :: '=' :: _ | '?' :: '!' :: _ => none
  | '?' :: '<' :: '=' :: _ | '?' :: '<' :: '!' :: _ => none
  | '?' :: 'P' :: '<' :: rest => reader.openNamed? rest
  | '?' :: '<' :: rest => reader.openNamed? rest
  | '?' :: rest => reader.readFlags? rest
  | rest => some (reader.openGroup true reader.flags, rest)

def closeGroup? (reader : PatternReader) : Option PatternReader :=
  match reader.outer with
  | [] => none
  | around :: outer =>
    let group := reader.group.content.group reader.group.keeps
    some { reader with group := around.add group, outer := outer }

/-- The text after the mark of a reluctant repetition. -/
def afterReluctant : List Char → List Char
  | '?' :: rest => rest
  | rest => rest

def repeat? (reader : PatternReader) (least : Nat) (most : Option Nat) (rest : List Char) :
    Option Step :=
  (reader.group.repeat? least most).map fun group =>
    ({ reader with group := group }, afterReluctant rest)

/-- Reads a count of 32 bits with blanks around it. -/
def readCount? (flags : PatternFlags) (cs : List Char) : Option (Nat × List Char) := do
  let (digits, rest) := flags.span Decimal.isDigit (cs.dropWhile Blank.isBlank)
  let count ← Decimal.natural? digits
  guard (count < 4294967296)
  return (count, (flags.span Blank.isBlank rest).2)

/-- Reads the counts of a repetition up to its closing brace. -/
def readCounts? (flags : PatternFlags) (cs : List Char) :
    Option ((Nat × Option Nat) × List Char) := do
  let (least, rest) ← readCount? flags (flags.skip cs)
  match rest with
  | '\x7d' :: rest => return ((least, some least), rest)
  | ',' :: rest =>
    match flags.skip rest with
    | '\x7d' :: rest => return ((least, none), rest)
    | rest =>
      let (most, rest) ← readCount? flags rest
      guard (least ≤ most && rest.head? == some '\x7d')
      return ((least, some most), rest.drop 1)
  | _ => none

/-- Adds a set in brackets to what is around it: other brackets, or the group. -/
def addItem (item : SetItem) (around : List OpenSet) (reader : PatternReader) : PatternReader :=
  match around with
  | outer :: rest => { reader with brackets := outer.add item :: rest }
  | [] => { reader.add (.ofSet item) with brackets := [] }

def openBracket? (reader : PatternReader) (cs : List Char) : Option Step :=
  (OpenSet.read? reader.flags cs).map fun (opened, rest) =>
    ({ reader with brackets := opened :: reader.brackets }, rest)

def stepOutside (reader : PatternReader) (c : Char) (rest : List Char) : Option Step :=
  match c with
  | '(' => reader.readGroup? rest
  | ')' => reader.closeGroup?.map fun next => (next, rest)
  | '|' => some ({ reader with group := reader.group.branch }, rest)
  | '[' => reader.openBracket? rest
  | '?' => reader.repeat? 0 (some 1) rest
  | '*' => reader.repeat? 0 none rest
  | '+' => reader.repeat? 1 none rest
  | '\x7b' => do
    let ((least, most), rest) ← readCounts? reader.flags rest
    reader.repeat? least most (reader.flags.skip rest)
  | '\\' => do
    let (atom, rest) ← Atom.readEscape? reader.flags rest
    return (reader.add (← Piece.ofAtom? reader.flags atom), rest)
  | '.' => reader.flags.dot?.map fun set => (reader.add (.ofSet (.ofSet set)), rest)
  | '^' => some (reader.add (.ofAssertion reader.flags.lineStart), rest)
  | '$' => some (reader.add (.ofAssertion reader.flags.lineEnd), rest)
  | c => (Piece.ofChar? reader.flags c false).map fun piece => (reader.add piece, rest)

def stepInside (reader : PatternReader) (opened : OpenSet) (around : List OpenSet) (c : Char)
    (rest : List Char) : Option Step :=
  let flags := reader.flags
  if c = '[' then
    match OpenSet.readAsciiClass? flags rest with
    | some (set, after) => set.map fun s =>
      ({ reader with brackets := opened.add (.ofSet s) :: around }, after)
    | none => reader.openBracket? rest
  else if c = ']' then
    (opened.close? flags).map fun item => (reader.addItem item around, rest)
  else
    match if rest.head? = some c then SetOperator.ofChar? c else none with
    | some op => some ({ reader with brackets := opened.operate flags op :: around }, rest.drop 1)
    | none =>
      (OpenSet.readItem? flags (c :: rest)).map fun (item, after) =>
        ({ reader with brackets := opened.add item :: around }, after)

/-- One step: a blank or a comment that does not count, or a part of the pattern. -/
def step (reader : PatternReader) (c : Char) (rest : List Char) : Option Step :=
  match reader.flags.skip (c :: rest) with
  | [] => some (reader, [])
  | c :: rest =>
    match reader.brackets with
    | opened :: around => reader.stepInside opened around c rest
    | [] => reader.stepOutside c rest

/-- Takes steps until the text is used up; a step that uses up nothing ends in failure. -/
def run? (reader : PatternReader) : List Char → Option PatternReader
  | [] => some reader
  | c :: cs =>
    match reader.step c cs with
    | some (next, rest) => if rest.length ≤ cs.length then next.run? rest else none
    | none => none
termination_by cs => cs.length

def initial : PatternReader :=
  ⟨.opening true .initial, [], [], []⟩

/-- The whole pattern, if everything that was opened is closed. -/
def finish? (reader : PatternReader) : Option Piece :=
  if reader.outer.isEmpty && reader.brackets.isEmpty then some reader.group.content else none

end PatternReader

namespace Pattern

def depthLimit : Nat :=
  250

/-- The most room that a pattern may take, ten times 2 to the 20. -/
def sizeLimit : Nat :=
  10485760

def read? (s : String) : Option Pattern := do
  let reader ← PatternReader.initial.run? s.toList
  let piece ← reader.finish?
  guard (piece.depth ≤ depthLimit && piece.size ≤ sizeLimit)
  return piece.pattern

end Pattern

end CrawlAudit
