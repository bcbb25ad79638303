import CrawlAudit.Query.Catalog
import CrawlAudit.Sorted
import CrawlAudit.Store.Table

/-!
# Parents and children among patterns

A list of patterns is reduced by the relation of parents and children. A parent that counts as
much as one of its children is dropped, and then children are moved under their parents. Both
passes look at every pair of the list once, the relation is not followed further.
-/

namespace CrawlAudit

inductive PatternResult where
  | mk (key : String) (counters : List (String × Cell)) (children : List PatternResult)
  deriving Inhabited

namespace PatternResult

def key : PatternResult → String
  | mk k _ _ => k

def counters : PatternResult → List (String × Cell)
  | mk _ cs _ => cs

def children : PatternResult → List PatternResult
  | mk _ _ ps => ps

def counter? (pattern : PatternResult) (field : String) : Option Cell :=
  pattern.counters.lookup field

def count (pattern : PatternResult) (field : String) : Int64 :=
  FieldCatalog.shownNumber (pattern.counter? field)

mutual

/-- Equality of patterns: the same key, counters and children, in which a counter that is no
number equals nothing. -/
def same : PatternResult → PatternResult → Bool
  | mk k cs ps, mk l ds qs =>
    k == l && cs.map Prod.fst == ds.map Prod.fst &&
      Cell.sameItems (cs.map Prod.snd) (ds.map Prod.snd) && sameAll ps qs

def sameAll : List PatternResult → List PatternResult → Bool
  | [], [] => true
  | p :: ps, q :: qs => same p q && sameAll ps qs
  | _, _ => false

end

def addChild (child : PatternResult) : PatternResult → PatternResult
  | mk k cs ps => mk k cs (ps ++ [child])

end PatternResult

/-- Which pattern is the parent of which. -/
abbrev Hierarchy :=
  List (String × String)

namespace Hierarchy

/-- The relation in a table with a column of parents and one of children; there is none without
the table or without the columns. -/
def ofStore? (store : TableStore) : Option Hierarchy := do
  let table ← store.table? TableStore.relationTable
  let parents ← table.columnIndex? "parent"
  let children ← table.columnIndex? "child"
  return table.rows.filterMap fun row => do
    let parent ← (row.cell parents).keyText?
    let child ← (row.cell children).keyText?
    return (parent, child)

def isParent (hierarchy : Hierarchy) (parent child : PatternResult) : Bool :=
  hierarchy.contains (parent.key, child.key)

/-- The places of parent and child among two related patterns; where each is the parent of the
other, the first counts as the parent. -/
def related? (hierarchy : Hierarchy) (a b : PatternResult × Nat) : Option (Nat × Nat) :=
  if hierarchy.isParent a.1 b.1 then some (a.2, b.2)
  else if hierarchy.isParent b.1 a.1 then some (b.2, a.2)
  else none

def pairsAmong (hierarchy : Hierarchy) : List (PatternResult × Nat) → List (Nat × Nat)
  | [] => []
  | p :: ps => ps.filterMap (hierarchy.related? p) ++ pairsAmong hierarchy ps

/-- The places of parent and child of every related pair of a list, in list order. -/
def relatedPairs (hierarchy : Hierarchy) (patterns : List PatternResult) : List (Nat × Nat) :=
  hierarchy.pairsAmong patterns.zipIdx

/-- The elements whose places are not among the given ones. -/
def dropPlaces (places : List Nat) (patterns : List PatternResult) : List PatternResult :=
  (patterns.zipIdx.filter fun p => !places.contains p.2).map Prod.fst

/-- Whether the parent of a pair counts as much as the child. -/
def isEquivalent (patterns : List PatternResult) (target : String) (pair : Nat × Nat) : Bool :=
  (patterns.getD pair.1 default).count target == (patterns.getD pair.2 default).count target

/-- Drops the parents that count as much as one of their children. -/
def removeEquivalentParents (hierarchy : Hierarchy) (patterns : List PatternResult)
    (target : String) : List PatternResult :=
  let equivalent := (hierarchy.relatedPairs patterns).filter (isEquivalent patterns target)
  dropPlaces (equivalent.map Prod.fst) patterns

/-- Puts the child of a pair, as it is now, under the parent. -/
def moveChild (patterns : List PatternResult) (pair : Nat × Nat) : List PatternResult :=
  patterns.modify pair.1 (PatternResult.addChild (patterns.getD pair.2 default))

/-- Moves the children found in the list under their parents. -/
def hideChildren (hierarchy : Hierarchy) (patterns : List PatternResult) : List PatternResult :=
  let pairs := hierarchy.relatedPairs patterns
  dropPlaces (pairs.map Prod.snd) (pairs.foldl moveChild patterns)

def reduce (hierarchy : Hierarchy) (patterns : List PatternResult) (target : String) :
    List PatternResult :=
  hierarchy.hideChildren (hierarchy.removeEquivalentParents patterns target)

end Hierarchy

end CrawlAudit
