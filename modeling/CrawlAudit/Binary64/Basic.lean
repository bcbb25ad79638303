import CrawlAudit.Order

/-!
# Double precision numbers

A double is its 64 bits. Every finite double is a whole multiple of the least positive one,
so its value is an integer number of `units` and all arithmetic below is exact arithmetic on
integers followed by one rounding to the nearest double, ties to even.
-/

namespace CrawlAudit

/-- A double precision number, given by its bits; two NaNs with different bits are different. -/
structure Binary64 where
  bits : UInt64
  deriving DecidableEq, Inhabited

namespace Binary64

/-- The bits without the sign. -/
def magnitude (x : Binary64) : Nat :=
  x.bits.toNat % Nat.pow 2 63

/-- Whether the sign bit is set. -/
def negative (x : Binary64) : Bool :=
  decide (Nat.pow 2 63 ≤ x.bits.toNat)

/-- The magnitude of the infinities; below it stand the finite numbers, above it the NaNs. -/
def infinityMagnitude : Nat :=
  2047 * Nat.pow 2 52

def isNaN (x : Binary64) : Bool :=
  decide (infinityMagnitude < x.magnitude)

def isFinite (x : Binary64) : Bool :=
  decide (x.magnitude < infinityMagnitude)

/-- The double with the given sign and magnitude; a magnitude past the infinities is cut. -/
def ofSignMagnitude (negative : Bool) (magnitude : Nat) : Binary64 :=
  let m := min magnitude infinityMagnitude
  ⟨UInt64.ofNat (if negative then Nat.pow 2 63 + m else m)⟩

def zero : Binary64 :=
  ofSignMagnitude false 0

def one : Binary64 :=
  ofSignMagnitude false (1023 * Nat.pow 2 52)

def infinity (negative : Bool) : Binary64 :=
  ofSignMagnitude negative infinityMagnitude

def nan : Binary64 :=
  ⟨0x7FF8000000000000⟩

/-- The number of units, multiples of the least positive double, that a finite magnitude stands
for. -/
def unitsOfMagnitude (magnitude : Nat) : Nat :=
  let exponent := magnitude / Nat.pow 2 52
  if exponent = 0 then magnitude
  else (magnitude % Nat.pow 2 52 + Nat.pow 2 52) * Nat.pow 2 (exponent - 1)

def unitsPerOne : Nat :=
  Nat.pow 2 1074

/-- The exact value of a finite double in units. -/
def units (x : Binary64) : Int :=
  if x.negative then -(unitsOfMagnitude x.magnitude : Int)
  else unitsOfMagnitude x.magnitude

/-- The quotient rounded to the nearest natural number, a half to the even neighbour. -/
def divNearestEven (num den : Nat) : Nat :=
  let q := num / den
  let r := 2 * (num % den)
  if r < den then q
  else if den < r then q + 1
  else q + q % 2

/-- The magnitude nearest to `num / den` units. Below `2 ^ 53` units the magnitude is the number
of units itself; above, each doubling of the value adds `2 ^ 52` to it. -/
def magnitudeOfUnits (num den : Nat) : Nat :=
  let shift := Nat.log2 (num / den) - 52
  min (shift * Nat.pow 2 52 + divNearestEven num (den * Nat.pow 2 shift)) infinityMagnitude

/-- The double nearest to `num / den` with the given sign. -/
def ofRatio (negative : Bool) (num den : Nat) : Binary64 :=
  ofSignMagnitude negative (magnitudeOfUnits (num * unitsPerOne) den)

/-- The double nearest to a number of units; zero units are positive zero. -/
def ofUnits (n : Int) : Binary64 :=
  ofSignMagnitude (decide (n < 0)) (magnitudeOfUnits n.natAbs 1)

def ofInt (n : Int) : Binary64 :=
  ofUnits (n * unitsPerOne)

/-- The integer part of a finite double. -/
def truncate (x : Binary64) : Int :=
  x.units.tdiv unitsPerOne

/-- The sum of two doubles. A sum of two negative zeros keeps its sign. -/
def add (x y : Binary64) : Binary64 :=
  if x.isNaN || y.isNaN then nan
  else if x.isFinite then
    if y.isFinite then
      if x.units + y.units = 0 then
        ofSignMagnitude (x.negative && y.negative) 0
      else ofUnits (x.units + y.units)
    else y
  else if y.isFinite || x.negative == y.negative then x
  else nan

def mul (x y : Binary64) : Binary64 :=
  let sign := x.negative != y.negative
  if x.isNaN || y.isNaN then nan
  else if x.isFinite && y.isFinite then
    ofRatio sign (x.units.natAbs * y.units.natAbs) (unitsPerOne * unitsPerOne)
  else if x.magnitude = 0 || y.magnitude = 0 then nan
  else infinity sign

def div (x y : Binary64) : Binary64 :=
  let sign := x.negative != y.negative
  if x.isNaN || y.isNaN then nan
  else if x.isFinite then
    if y.isFinite then
      if y.magnitude = 0 then if x.magnitude = 0 then nan else infinity sign
      else ofRatio sign x.units.natAbs y.units.natAbs
    else ofSignMagnitude sign 0
  else if y.isFinite then infinity sign
  else nan

def neg (x : Binary64) : Binary64 :=
  ⟨x.bits ^^^ 0x8000000000000000⟩

/-- The place of a number on the line, with the two zeros in one place. -/
def place (x : Binary64) : Int :=
  if x.negative then -(x.magnitude : Int) else x.magnitude

/-- The place of a double in the total order: NaNs of either sign are at the ends and negative
zero is just below positive zero. -/
def totalPlace (x : Binary64) : Int :=
  if x.negative then -(x.magnitude : Int) - 1 else x.magnitude

/-- Numeric order; a NaN compares with nothing. -/
def compare? (x y : Binary64) : Option Ordering :=
  if x.isNaN || y.isNaN then none else some (Order.integers x.place y.place)

/-- Numeric equality: the zeros are equal and a NaN differs from itself. -/
def sameNumber (x y : Binary64) : Bool :=
  compare? x y = some .eq

def totalCompare (x y : Binary64) : Ordering :=
  Order.integers x.totalPlace y.totalPlace

end Binary64

end CrawlAudit
