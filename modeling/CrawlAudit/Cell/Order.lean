import CrawlAudit.Cell.Basic

/-!
# Orders on cells

The partial order compares texts with texts and numbers with numbers. The total order, by which
rows are grouped and sorted, puts nulls before numbers, numbers before texts and texts before
lists.
-/

namespace CrawlAudit.Cell

/-- The partial order. A NaN compares with nothing. -/
def compare? : Cell → Cell → Option Ordering
  | .text a, .text b => some (Order.texts a b)
  | a, b =>
    match a.number?, b.number? with
    | some x, some y => x.compare? y
    | _, _ => none

/-- The place of a kind of cell in the total order. -/
def rank : Cell → Nat
  | .null => 0
  | .bool _ | .int _ | .float _ => 1
  | .text _ => 2
  | .list _ => 3

mutual

/-- The total order; lists compare item by item. -/
def totalCompare : Cell → Cell → Ordering
  | .text a, .text b => Order.texts a b
  | .list as, .list bs => totalCompareItems as bs
  | a, b =>
    match a.number?, b.number? with
    | some x, some y => x.totalCompare y
    | _, _ => Order.integers a.rank b.rank

def totalCompareItems : List Cell → List Cell → Ordering
  | [], [] => .eq
  | [], _ :: _ => .lt
  | _ :: _, [] => .gt
  | a :: as, b :: bs => (totalCompare a b).then (totalCompareItems as bs)

end

end CrawlAudit.Cell
