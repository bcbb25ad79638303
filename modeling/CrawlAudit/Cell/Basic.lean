import CrawlAudit.Binary64.Decimal
import CrawlAudit.Json.Basic

/-!
# Cells

The value of one column in one row, with its numeric, textual and key views and its equalities.
-/

namespace CrawlAudit

inductive Cell where
  | null
  | bool (b : Bool)
  | int (n : Int64)
  | float (x : Binary64)
  | text (s : String)
  | list (items : List Cell)
  deriving Inhabited

abbrev Row :=
  List Cell

namespace Cell

mutual

def decEq : (a b : Cell) → Decidable (a = b)
  | .null, b => match b with
    | .null => isTrue rfl
    | .bool _ | .int _ | .float _ | .text _ | .list _ => isFalse nofun
  | .bool x, b => match b with
    | .bool y => decidable_of_iff (x = y) (by simp)
    | .null | .int _ | .float _ | .text _ | .list _ => isFalse nofun
  | .int m, b => match b with
    | .int n => decidable_of_iff (m = n) (by simp)
    | .null | .bool _ | .float _ | .text _ | .list _ => isFalse nofun
  | .float x, b => match b with
    | .float y => decidable_of_iff (x = y) (by simp)
    | .null | .bool _ | .int _ | .text _ | .list _ => isFalse nofun
  | .text s, b => match b with
    | .text t => decidable_of_iff (s = t) (by simp)
    | .null | .bool _ | .int _ | .float _ | .list _ => isFalse nofun
  | .list as, b => match b with
    | .list bs => @decidable_of_iff _ (as = bs) (by simp) (decEqItems as bs)
    | .null | .bool _ | .int _ | .float _ | .text _ => isFalse nofun

def decEqItems : (as bs : List Cell) → Decidable (as = bs)
  | [], bs => match bs with
    | [] => isTrue rfl
    | _ :: _ => isFalse nofun
  | a :: as, bs => match bs with
    | [] => isFalse nofun
    | b :: bs => @decidable_of_iff _ (a = b ∧ as = bs) (by simp)
      (@instDecidableAnd _ _ (decEq a b) (decEqItems as bs))

end

instance : DecidableEq Cell :=
  decEq

def ofBool (b : Bool) : Int64 :=
  if b then 1 else 0

/-- The integer view: integers, truth values, and finite doubles cut to their integer part within
the 64 bit range. -/
def integer? : Cell → Option Int64
  | .int n => some n
  | .bool b => some (ofBool b)
  | .float x => if x.isFinite then some (Int64.ofIntClamp x.truncate) else none
  | _ => none

/-- The view by which cells are compared and summed; an integer is rounded to a double. -/
def number? : Cell → Option Binary64
  | .int n => some (Binary64.ofInt n.toInt)
  | .bool b => some (Binary64.ofInt (ofBool b).toInt)
  | .float x => some x
  | _ => none

def text? : Cell → Option String
  | .text s => some s
  | _ => none

/-- The text of an opaque key: a hash, or a url id. -/
def keyText? : Cell → Option String
  | .text s => some s
  | .int n => some (Decimal.text n.toInt)
  | _ => none

/-- The text that patterns and parts of texts are looked for in. -/
def shownText? : Cell → Option String
  | .text s => some s
  | .int n => some (Decimal.text n.toInt)
  | .float x => some x.text
  | _ => none

def isNull : Cell → Bool
  | .null => true
  | _ => false

def isNumeric : Cell → Bool
  | .bool _ | .int _ | .float _ => true
  | _ => false

mutual

/-- Equality of cells of one kind; doubles are equal when they are the same number. -/
def same : Cell → Cell → Bool
  | .null, .null => true
  | .bool a, .bool b => a == b
  | .int a, .int b => a == b
  | .float a, .float b => a.sameNumber b
  | .text a, .text b => a == b
  | .list as, .list bs => sameItems as bs
  | _, _ => false

def sameItems : List Cell → List Cell → Bool
  | [], [] => true
  | a :: as, b :: bs => same a b && sameItems as bs
  | _, _ => false

end

/-- Equality in which an integer equals the double it rounds to, outside of lists. -/
def looselySame (a b : Cell) : Bool :=
  match a, b with
  | .int m, .float y => (Binary64.ofInt m.toInt).sameNumber y
  | .float x, .int n => x.sameNumber (Binary64.ofInt n.toInt)
  | .int m, .int n => (Binary64.ofInt m.toInt).sameNumber (Binary64.ofInt n.toInt)
  | _, _ => same a b

/-- The cell of a document; an object has none. -/
def ofJson : Json → Cell
  | .null | .object _ => .null
  | .bool b => .bool b
  | .int n =>
    if Int64.minValue.toInt ≤ n ∧ n ≤ Int64.maxValue.toInt then .int (Int64.ofInt n)
    else .float (Binary64.ofInt n)
  | .float x => .float x
  | .text s => .text s
  | .array items => .list (items.map ofJson)

/-- The cell as a document; a double that is not finite becomes null. -/
def toJson : Cell → Json
  | .null => .null
  | .bool b => .bool b
  | .int n => .int n.toInt
  | .float x => if x.isFinite then .float x else .null
  | .text s => .text s
  | .list items => .array (items.map toJson)

def ofIntegers (ns : List Int64) : Cell :=
  .list (ns.map .int)

end Cell

namespace Row

/-- The cell of a column; a row that is too short has nulls. -/
def cell (row : Row) (column : Nat) : Cell :=
  row.getD column .null

def integer? (row : Row) (column : Nat) : Option Int64 :=
  (row.cell column).integer?

def text? (row : Row) (column : Nat) : Option String :=
  (row.cell column).text?

end Row

end CrawlAudit
