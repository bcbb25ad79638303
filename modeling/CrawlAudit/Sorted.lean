import CrawlAudit.Order

/-!
# Sorted associations

A map as the list of its entries in ascending order of their keys.
-/

namespace CrawlAudit.Sorted

variable {κ ν : Type}

/-- The entries with the value of one key changed, or put in its place if it was missing. -/
def alter (order : κ → κ → Ordering) (key : κ) (change : Option ν → ν) :
    List (κ × ν) → List (κ × ν)
  | [] => [(key, change none)]
  | (k, v) :: rest =>
    match order key k with
    | .lt => (key, change none) :: (k, v) :: rest
    | .eq => (key, change (some v)) :: rest
    | .gt => (k, v) :: alter order key change rest

/-- The entries with one more; an entry of the same key is replaced. -/
def insert (order : κ → κ → Ordering) (key : κ) (value : ν) (entries : List (κ × ν)) :
    List (κ × ν) :=
  alter order key (fun _ => value) entries

def find? (order : κ → κ → Ordering) (key : κ) : List (κ × ν) → Option ν
  | [] => none
  | (k, v) :: rest => if order key k = .eq then some v else find? order key rest

/-- The entries of a list in which a later entry replaces an earlier one of the same key. -/
def ofList (order : κ → κ → Ordering) (entries : List (κ × ν)) : List (κ × ν) :=
  entries.foldl (fun sorted e => insert order e.1 e.2 sorted) []

end CrawlAudit.Sorted
