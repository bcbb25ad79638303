/-!
# Orders

The orders by which results are sorted. Texts compare by code points, which is also the order of
their UTF-8 octets. Sorting is stable throughout.
-/

namespace CrawlAudit.Order

def integers (a b : Int) : Ordering :=
  if a < b then .lt else if a = b then .eq else .gt

/-- The lexicographic order of two lists; a list comes before its extensions. -/
def lists {α : Type} (order : α → α → Ordering) : List α → List α → Ordering
  | [], [] => .eq
  | [], _ :: _ => .lt
  | _ :: _, [] => .gt
  | a :: as, b :: bs => (order a b).then (lists order as bs)

/-- The order of two characters by code point. -/
def characters (a b : Char) : Ordering :=
  integers a.toNat b.toNat

/-- The order of two texts by code points. -/
def texts (a b : String) : Ordering :=
  lists characters a.toList b.toList

/-- The order in which a missing value comes first. -/
def optional {α : Type} (order : α → α → Ordering) : Option α → Option α → Ordering
  | none, none => .eq
  | none, some _ => .lt
  | some _, none => .gt
  | some a, some b => order a b

/-- The order by the first of some entries that tells two elements apart. -/
def lexicographic {ε α : Type} (order : ε → α → α → Ordering) (entries : List ε) (a b : α) :
    Ordering :=
  entries.foldr (fun e later => (order e a b).then later) .eq

/-- The stable sort: elements that compare equal keep their places relative to each other. -/
def sort {α : Type} (order : α → α → Ordering) (xs : List α) : List α :=
  xs.mergeSort fun a b => order a b != .gt

/-- Whether two elements compare equal. -/
def tied {α : Type} (order : α → α → Ordering) (a b : α) : Bool :=
  order a b == .eq

/-- The runs of elements that compare equal to the first one of their run. -/
def runs {α : Type} (order : α → α → Ordering) : List α → List (List α)
  | [] => []
  | a :: as => (a :: as.takeWhile (tied order a)) :: runs order (as.dropWhile (tied order a))
termination_by as => as.length
decreasing_by
  exact Nat.lt_succ_of_le (List.dropWhile_sublist _).length_le

end CrawlAudit.Order
