import CrawlAudit.Duplicate.Record
import CrawlAudit.Sorted
import CrawlAudit.Stream.Join
import CrawlAudit.Stream.Schema

/-!
# Detecting duplicates

The contents of one url after the other are observed, in ascending order of the urls. Then every
url with a mandatory content gets one record per kind of content it has, and for a mandatory kind
the record tells which urls share its first content.
-/

namespace CrawlAudit

/-- A kind of content on a url. -/
abbrev Slot :=
  Int64 × ContentKind

/-- Slots are ordered by url, then by kind. -/
def Slot.order (a b : Slot) : Ordering :=
  (Order.int64s a.1 b.1).then (Order.integers a.2.id b.2.id)

/-- What has been observed so far. `groups` lists, by kind and hash, the urls whose first content
of the kind has the hash, in the order in which they were observed. -/
structure Detector where
  filled : List (Slot × Nat)
  firstHash : List (Slot × Int64)
  groups : List ((ContentKind × Int64) × List Int64)
  firstUrl : Option Int64
  lastUrl : Option Int64

namespace Detector

def empty : Detector :=
  ⟨[], [], [], none, none⟩

def groupOrder (a b : ContentKind × Int64) : Ordering :=
  (Order.integers a.1.id b.1.id).then (Order.int64s a.2 b.2)

/-- The hash of the first content of a slot. -/
def hash? (detector : Detector) (slot : Slot) : Option Int64 :=
  Sorted.find? Slot.order slot detector.firstHash

/-- The urls whose first content of a kind has the hash, if there are any. -/
def group? (detector : Detector) (kind : ContentKind) (hash : Int64) : Option (List Int64) :=
  Sorted.find? groupOrder (kind, hash) detector.groups

def count (detector : Detector) (slot : Slot) : Detector :=
  { detector with
    filled := Sorted.alter Slot.order slot (fun n => n.getD 0 + 1) detector.filled }

/-- Puts a url in the group of its first content of a kind. -/
def enter (detector : Detector) (slot : Slot) (hash : Int64) : Detector :=
  { detector with
    firstHash := Sorted.insert Slot.order slot hash detector.firstHash
    groups := Sorted.alter groupOrder (slot.2, hash) (fun urls => urls.getD [] ++ [slot.1])
      detector.groups }

/-- Observes one content, given by the number of its kind and its hash. Contents of unknown kinds
are ignored. -/
def observeContent (url : Int64) (detector : Detector) (content : Int64 × Int64) : Detector :=
  match ContentKind.ofId? content.1 with
  | none => detector
  | some kind =>
    let counted := detector.count (url, kind)
    if kind.isMandatory && (detector.hash? (url, kind)).isNone then
      counted.enter (url, kind) content.2
    else counted

def observe (detector : Detector) (url : Int64) (contents : List (Int64 × Int64)) : Detector :=
  contents.foldl (observeContent url)
    { detector with firstUrl := detector.firstUrl.or (some url), lastUrl := some url }

def hasMandatory (detector : Detector) (url : Int64) : Bool :=
  detector.firstHash.any fun e => e.1.1 == url

def least? (urls : List Int64) : Option Int64 :=
  match urls with
  | [] => none
  | u :: us => some (us.foldl (fun m v => if v.toInt < m.toInt then v else m) u)

/-- The record of a slot, with at most `sampleSize` other urls. A slot of a mandatory kind that is
in no group has none. -/
def record? (detector : Detector) (sampleSize : Nat) (slot : Slot) (filled : Nat) :
    Option DuplicateRecord :=
  if slot.2.isMandatory then
    ((detector.hash? slot).bind (detector.group? slot.2)).map fun urls =>
      { urlId := slot.1
        kind := slot.2
        filled := filled
        duplicates := urls.length
        isFirst := least? urls == some slot.1
        others := (urls.filter (· != slot.1)).take sampleSize }
  else
    some
      { urlId := slot.1
        kind := slot.2
        filled := filled
        duplicates := 0
        isFirst := true
        others := [] }

/-- Whether a url lies between the first and the last url observed. -/
def inRange (detector : Detector) (url : Int64) : Bool :=
  match detector.firstUrl, detector.lastUrl with
  | some first, some last => first.toInt ≤ url.toInt && url.toInt ≤ last.toInt
  | _, _ => false

def finish (detector : Detector) (sampleSize : Nat) : List DuplicateRecord :=
  detector.filled.filterMap fun e =>
    if detector.inRange e.1.1 && detector.hasMandatory e.1.1 then
      detector.record? sampleSize e.1 e.2
    else none

end Detector

namespace DuplicateRecord

/-- The kind and hash in a row of the stream of contents, if both are integers. -/
def content? (row : Row) : Option (Int64 × Int64) := do
  let kind ← row.integer? 1
  let hash ← row.integer? 2
  return (kind, hash)

/-- Observes the url of a joined row with its contents; a row without an id is skipped. -/
def observeJoined (detector : Detector) (joined : Joined Row JoinKey) : Detector :=
  match joined.primary.integer? 0 with
  | none => detector
  | some url => detector.observe url ((joined.matches "contents").filterMap content?)

/-- The contents stream as it is joined to the urls. -/
def contentsSecondary (contents : List Row) : Secondary :=
  ⟨"contents", 0, contents⟩

def ofStreams (patterns contents : List Row) (sampleSize : Nat) : List DuplicateRecord :=
  ((join 0 patterns [contentsSecondary contents]).foldl observeJoined Detector.empty).finish
    sampleSize

end DuplicateRecord

end CrawlAudit
