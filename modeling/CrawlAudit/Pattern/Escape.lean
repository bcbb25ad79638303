import CrawlAudit.Pattern.Flags

/-!
# Escapes in patterns

What stands after a backslash: a character, a set of characters, or something asked of a place.
-/

namespace CrawlAudit

/-- A smallest part of a pattern. `octet` marks a character written with two hexadecimal
digits. -/
inductive Atom where
  | literal (c : Char) (octet : Bool)
  | set (set : CharSet)
  | assertion (test : Assertion)

namespace Atom

/-- The characters that mean something on their own. -/
def metaCharacters : List Char :=
  ['\\', '.', '+', '*', '?', '(', ')', '|', '[', ']', '\x7b', '\x7d', '^', '$', '#', '&', '-', '~']

/-- Whether a character stands for itself after a backslash. -/
def isEscapable (c : Char) : Bool :=
  metaCharacters.contains c || (c.toNat < 0x80 && !c.isAlphanum && c != '<' && c != '>')

def control? : Char → Option Char
  | 'a' => some '\x07'
  | 'f' => some '\x0c'
  | 't' => some '\t'
  | 'n' => some '\n'
  | 'r' => some '\r'
  | 'v' => some '\x0b'
  | _ => none

def ofHex? (digits : List Char) : Option Char :=
  let code := Hexadecimal.value digits
  if !digits.isEmpty && digits.all Hexadecimal.isDigit && code.isValidChar then
    some (Char.ofNat code)
  else none

/-- Reads a given number of characters. -/
def take? (flags : PatternFlags) : Nat → List Char → Option (List Char × List Char)
  | 0, cs => some ([], cs)
  | n + 1, cs =>
    match flags.skip cs with
    | [] => none
    | c :: rest => (take? flags n rest).map fun r => (c :: r.1, r.2)

/-- Reads the content of braces after the opening one. -/
def braced? (flags : PatternFlags) (cs : List Char) : Option (List Char × List Char) :=
  match flags.span (· != '\x7d') (flags.skip cs) with
  | (content, _ :: rest) => some (content, rest)
  | _ => none

/-- The number of hexadecimal digits that follow a letter. -/
def hexLength? : Char → Option Nat
  | 'x' => some 2
  | 'u' => some 4
  | 'U' => some 8
  | _ => none

/-- Reads a character by its code point: in braces, or with a fixed number of digits. -/
def readHex? (flags : PatternFlags) (length : Nat) (cs : List Char) : Option (Atom × List Char) :=
  match flags.skip cs with
  | '\x7b' :: rest => do
    let (digits, rest) ← braced? flags rest
    return (.literal (← ofHex? digits) false, rest)
  | rest => do
    let (digits, rest) ← take? flags length rest
    return (.literal (← ofHex? digits) (length = 2), rest)

/-- Reads the name of a property: one letter, or a text in braces. -/
def readPropertyName? (flags : PatternFlags) (cs : List Char) : Option (List Char × List Char) :=
  match flags.skip cs with
  | [] => none
  | '\x7b' :: rest => braced? flags rest
  | '\\' :: _ => none
  | c :: rest => some ([c], rest)

def readProperty? (flags : PatternFlags) (negated : Bool) (cs : List Char) :
    Option (Atom × List Char) := do
  let (name, rest) ← readPropertyName? flags cs
  guard flags.unicode
  let set ← CharSet.named? name
  return (.set (← flags.negate? negated (flags.fold set)), rest)

/-- The set of digits, blanks or word characters, or its complement for a capital letter. -/
def shorthand? (flags : PatternFlags) (letter : Char) : Option CharSet := do
  let kind ← CharSet.Shorthand.ofLetter? letter.toLower
  flags.negate? letter.isUpper (.codes (if flags.unicode then kind.codes else kind.asciiCodes))

def wordEdge? (name : List Char) : Option WordEdge :=
  [("start", WordEdge.wordStart), ("end", .wordEnd), ("start-half", .startHalf),
    ("end-half", .endHalf)].lookup (String.ofList name)

def isEdgeLetter (c : Char) : Bool :=
  c.isAlpha || c == '-'

/-- Reads what follows the letter of a word edge. Braces that do not start with a letter are no
part of it. -/
def readWordEdge? (flags : PatternFlags) (cs : List Char) : Option (Atom × List Char) :=
  let plain := Atom.assertion (.word .boundary flags.wordLetters)
  match cs with
  | '\x7b' :: rest =>
    match flags.skip rest with
    | [] => none
    | c :: rest' =>
      if isEdgeLetter c then
        match flags.span isEdgeLetter (c :: rest') with
        | (name, '\x7d' :: after) =>
          (wordEdge? name).map fun edge => (.assertion (.word edge flags.wordLetters), after)
        | _ => none
      else some (plain, cs)
  | _ => some (plain, cs)

/-- What a one letter escape asks of a place. -/
def assertion? (flags : PatternFlags) : Char → Option Assertion
  | 'A' => some .textStart
  | 'z' => some .textEnd
  | 'B' => some (.word .noBoundary flags.wordLetters)
  | '<' => some (.word .wordStart flags.wordLetters)
  | '>' => some (.word .wordEnd flags.wordLetters)
  | _ => none

def ofLetter? (flags : PatternFlags) (c : Char) : Option Atom :=
  if isEscapable c then some (.literal c false)
  else
    (((control? c).map fun control => .literal control false).or
      ((assertion? flags c).map .assertion)).or ((shorthand? flags c).map .set)

def readEscape? (flags : PatternFlags) : List Char → Option (Atom × List Char)
  | [] => none
  | c :: rest =>
    match hexLength? c with
    | some length => readHex? flags length rest
    | none =>
      if c = 'p' ∨ c = 'P' then readProperty? flags (c = 'P') rest
      else if c = 'b' then readWordEdge? flags rest
      else (ofLetter? flags c).map fun atom => (atom, rest)

end Atom

end CrawlAudit
