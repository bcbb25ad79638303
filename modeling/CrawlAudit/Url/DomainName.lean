import CrawlAudit.Text.Category
import CrawlAudit.Text.Composition
import CrawlAudit.Text.Joining
import CrawlAudit.Text.WritingClass
import CrawlAudit.Url.DomainMapping
import CrawlAudit.Url.Punycode

/-!
# Domain names

The ASCII form of an internationalized domain name. Its characters are replaced by the ones that
domain names have and composed; a label with others than ASCII characters is written in an encoded
form, which has to read as nothing but such a label.
-/

namespace CrawlAudit.DomainName

/-- The characters that no domain may have, whatever it is written as. -/
def isForbidden (code : Nat) : Bool :=
  code ≤ 0x20 || code == 0x7F ||
    ['#', '/', ':', '<', '>', '?', '@', '[', '\\', ']', '^', '|', '%'].any (·.toNat == code)

/-- A label as code points. -/
abbrev Label :=
  List Nat

/-- The characters of a domain name, replaced and composed. -/
def normalize? (cs : List Char) : Option (List Nat) := do
  let mapped ← cs.mapM fun c => DomainMapping.map? c.toNat
  let composed := Composition.compose mapped.flatten
  guard !(composed.any isForbidden)
  return composed

def isAscii (label : Label) : Bool :=
  label.all (· < 0x80)

def encodedStart : List Char :=
  "xn--".toList

/-- The most characters of an encoded label that are read, and the most of a label that are
encoded. -/
def readLimit : Nat :=
  2000

def writeLimit : Nat :=
  1000

/-- Reads an encoded label after its start. Nothing in the label would have been replaced, and
not all of it is ASCII. -/
def decodeLabel? (cs : List Char) : Option Label := do
  guard (cs.length ≤ readLimit && cs.getLast?.any (· != '-'))
  let label ← Punycode.decode? cs
  guard (label.all DomainMapping.stays && Composition.compose label == label)
  return label

def readLabel? (label : Label) : Option Label :=
  let cs := label.map Char.ofNat
  if encodedStart.isPrefixOf cs then
    if isAscii label then decodeLabel? (cs.drop encodedStart.length) else none
  else some label

def isMark (code : Nat) : Bool :=
  (GeneralCategory.codesOf GeneralCategory.marks).contains code

/-- Whether letters that join each other stand around a place, the ones before it in reverse. -/
def isJoined (before after : Label) : Bool :=
  let next (codes : Label) : Option Nat := (codes.dropWhile Joining.transparent.contains).head?
  (next before).any Joining.joinsNext && (next after).any Joining.joinsPrevious

/-- The class of the marks that join consonants. -/
def viramaClass : Nat :=
  9

/-- Whether every joiner stands after a mark that joins consonants, or is a non-joiner between
letters that would join. -/
def joinersFit (before : Label) : Label → Bool
  | [] => true
  | code :: after =>
    (!(code == 0x200C || code == 0x200D) ||
      before.head?.any (Composition.combiningClass · == viramaClass) ||
      (code == 0x200C && isJoined before after)) && joinersFit (code :: before) after

/-- Whether a label that is not all ASCII has no mark at its front and its joiners fit. -/
def isWellFormed (label : Label) : Bool :=
  isAscii label || (!label.head?.any isMark && joinersFit [] label)

def classesOf (label : Label) : List WritingClass :=
  label.map WritingClass.ofCode

/-- Whether a class is one of a text from right to left. -/
def isRight (kind : WritingClass) : Bool :=
  [.right, .arabicLetter, .arabicNumber].contains kind

def lastClass? (kinds : List WritingClass) : Option WritingClass :=
  (kinds.reverse.dropWhile (· == .mark)).head?

/-- Whether a label fits into a domain name with letters from right to left: it runs in one
direction, ends in a letter or number of it, and has one kind of numbers. -/
def hasDirection (label : Label) : Bool :=
  let kinds := classesOf label
  match kinds.head? with
  | none => true
  | some .left =>
    !kinds.any isRight && (lastClass? kinds).any [.left, .europeanNumber].contains
  | some .right | some .arabicLetter =>
    !kinds.contains .left && !(kinds.contains .europeanNumber && kinds.contains .arabicNumber) &&
      (lastClass? kinds).any [.right, .arabicLetter, .europeanNumber, .arabicNumber].contains
  | some _ => false

def directionsFit (labels : List Label) : Bool :=
  !(labels.any fun label => (classesOf label).any isRight) || labels.all hasDirection

def writeLabel? (label : Label) : Option (List Char) :=
  if isAscii label then some (label.map Char.ofNat)
  else if label.length ≤ writeLimit then some (encodedStart ++ Punycode.encode label)
  else none

def toAscii? (cs : List Char) : Option (List Char) := do
  let codes ← normalize? cs
  let labels ← (codes.splitOn '.'.toNat).mapM readLabel?
  guard (labels.all isWellFormed && directionsFit labels)
  return ['.'].intercalate (← labels.mapM writeLabel?)

end CrawlAudit.DomainName
