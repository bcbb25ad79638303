import CrawlAudit.Cell.Basic
import CrawlAudit.Order

/-!
# Joining sorted streams

One pass joins the rows of a primary stream with the rows of named secondary streams that have
the same key. Every stream should be ascending in its key, rows without a key first; the order
is not checked, and a row that comes too late is dropped.
-/

namespace CrawlAudit

/-- A stream that is joined to the primary one, with the key of its rows. -/
structure Cursor (τ κ : Type) where
  name : String
  key : τ → κ
  rows : List τ

/-- A primary row with the rows of each secondary stream that share its key. -/
structure Joined (τ κ : Type) where
  key : κ
  primary : τ
  matched : List (String × List τ)

/-- The matching rows of a stream; of two streams with one name the later counts, and an unknown
name has no rows. -/
def Joined.matches {τ κ : Type} (joined : Joined τ κ) (name : String) : List τ :=
  (joined.matched.reverse.lookup name).getD []

namespace Cursor

variable {τ κ : Type}

/-- The rows at the front of a stream that have the key, and the stream after them. Rows with
smaller keys are dropped and the first row with a greater key stays. -/
def takeMatching (order : κ → κ → Ordering) (key : τ → κ) (wanted : κ) :
    List τ → List τ × List τ
  | [] => ([], [])
  | row :: rows =>
    match order (key row) wanted with
    | .lt => takeMatching order key wanted rows
    | .eq =>
      let (found, rest) := takeMatching order key wanted rows
      (row :: found, rest)
    | .gt => ([], row :: rows)

def found (order : κ → κ → Ordering) (cursor : Cursor τ κ) (wanted : κ) : List τ :=
  (takeMatching order cursor.key wanted cursor.rows).1

/-- The stream after the rows for a key have been taken from it. -/
def after (order : κ → κ → Ordering) (cursor : Cursor τ κ) (wanted : κ) : Cursor τ κ :=
  { cursor with rows := (takeMatching order cursor.key wanted cursor.rows).2 }

end Cursor

/-- The join of a primary stream with secondary streams: one record per primary row, in order. -/
def merge {τ κ : Type} (order : κ → κ → Ordering) (key : τ → κ) :
    List τ → List (Cursor τ κ) → List (Joined τ κ)
  | [], _ => []
  | row :: rows, cursors =>
    ⟨key row, row, cursors.map fun c => (c.name, c.found order (key row))⟩ ::
      merge order key rows (cursors.map fun c => c.after order (key row))

/-- A key column's value; rows without an integer there come first. -/
abbrev JoinKey :=
  Option Int64

/-- The order of two integers of 64 bits. -/
def Order.int64s (a b : Int64) : Ordering :=
  Order.integers a.toInt b.toInt

def JoinKey.order : JoinKey → JoinKey → Ordering :=
  Order.optional Order.int64s

/-- A stream of rows that is joined by one of its columns. -/
structure Secondary where
  name : String
  column : Nat
  rows : List Row

namespace Secondary

def cursor (secondary : Secondary) : Cursor Row JoinKey :=
  ⟨secondary.name, fun row => row.integer? secondary.column, secondary.rows⟩

/-- The stream after a join with the given primary rows. -/
def afterJoin (secondary : Secondary) (column : Nat) (primary : List Row) : Cursor Row JoinKey :=
  primary.foldl (fun c row => c.after JoinKey.order (row.integer? column)) secondary.cursor

/-- Whether a join with the given primary rows looks for a row past the last one. -/
def isExhausted (secondary : Secondary) (column : Nat) (primary : List Row) : Bool :=
  !primary.isEmpty && (secondary.afterJoin column primary).rows.isEmpty

end Secondary

def join (column : Nat) (primary : List Row) (secondaries : List Secondary) :
    List (Joined Row JoinKey) :=
  merge JoinKey.order (fun row => row.integer? column) primary
    (secondaries.map Secondary.cursor)

end CrawlAudit
