import CrawlAudit.Cell.Basic

/-!
# Sums of cells

Counters are summed cell by cell. Integers stay integers, saturating at the ends of the 64 bit
range, lists are joined, and a cell that counts as nothing leaves a sum as it is.
-/

namespace CrawlAudit.Cell

/-- Whether a cell is a number that can be summed. -/
def isCountable : Cell → Bool
  | .bool _ | .int _ => true
  | .float x => x.isFinite
  | _ => false

/-- What a countable cell is as a sum on its own. -/
def counted : Cell → Cell
  | .bool b => .int (ofBool b)
  | c => c

def sumNumbers (a b : Cell) : Cell :=
  match a, b with
  | .float _, _ | _, .float _ =>
    .float ((a.number?.getD .zero).add (b.number?.getD .zero))
  | _, _ =>
    .int (Int64.ofIntClamp ((a.integer?.getD 0).toInt + (b.integer?.getD 0).toInt))

/-- The sum of two cells. A number goes before a list, and only two lists are joined. -/
def add (a b : Cell) : Cell :=
  match a.isCountable, b.isCountable with
  | true, true => sumNumbers a b
  | true, false => a.counted
  | false, true => b.counted
  | false, false =>
    match a, b with
    | .list as, .list bs => .list (as ++ bs)
    | .list as, _ => .list as
    | _, .list bs => .list bs
    | _, _ => .null

/-- The sum of a sequence of cells; an empty one sums to null. -/
def sum (cells : List Cell) : Cell :=
  cells.foldl add .null

def runningSums (total : Cell) : List Cell → List Cell
  | [] => []
  | c :: cs => total.add c :: runningSums (total.add c) cs

end CrawlAudit.Cell
