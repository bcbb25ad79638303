import CrawlAudit.Binary64.Basic
import CrawlAudit.Text.Decimal

/-!
# Decimal text of doubles

Reading rounds the decimal number to the nearest double. Writing chooses the fewest digits that
read back and, of those, the ones nearest to the double.
-/

namespace CrawlAudit.Binary64

/-- The double nearest to `digits * 10 ^ exponent`. Exponents far outside the range are answered
without computing the power. -/
def ofDecimal (negative : Bool) (digits : Nat) (exponent : Int) : Binary64 :=
  let places : Int := (Decimal.digits digits).length
  if digits = 0 ∨ places + exponent < -400 then ofSignMagnitude negative 0
  else if 400 < places + exponent then infinity negative
  else if 0 ≤ exponent then ofRatio negative (digits * Nat.pow 10 exponent.toNat) 1
  else ofRatio negative digits (Nat.pow 10 (-exponent).toNat)

/-- Reads the exponent after its mark: an optional sign and at least one digit. -/
def exponent? (cs : List Char) : Option Int :=
  Decimal.integer? cs

/-- Reads an unsigned decimal number: digits with an optional point, at least one digit, and an
optional exponent. -/
def unsignedDecimal? (negative : Bool) (cs : List Char) : Option Binary64 := do
  let whole := cs.takeWhile Decimal.isDigit
  let afterWhole := cs.dropWhile Decimal.isDigit
  let (fraction, rest) :=
    match afterWhole with
    | '.' :: r => (r.takeWhile Decimal.isDigit, r.dropWhile Decimal.isDigit)
    | r => ([], r)
  guard (!(whole ++ fraction).isEmpty)
  let exponent ←
    match rest with
    | [] => some 0
    | c :: r => if c = 'e' ∨ c = 'E' then exponent? r else none
  return ofDecimal negative (Decimal.value (whole ++ fraction)) (exponent - fraction.length)

/-- Reads a number without its sign: a decimal number, or one of the words for the infinities and
NaN in any case. -/
def unsigned? (negative : Bool) (cs : List Char) : Option Binary64 :=
  let word := String.ofList (cs.map Char.toLower)
  if word = "inf" ∨ word = "infinity" then some (infinity negative)
  else if word = "nan" then some (if negative then neg nan else nan)
  else unsignedDecimal? negative cs

/-- Reads a number after an optional sign. -/
def ofText? : List Char → Option Binary64
  | '-' :: cs => unsigned? true cs
  | '+' :: cs => unsigned? false cs
  | cs => unsigned? false cs

/-- The exponent of the leading decimal digit of a positive number of units. -/
def leadingExponent (units : Nat) : Int :=
  let reaches (e : Int) : Bool :=
    if 0 ≤ e then decide (Nat.pow 10 e.toNat * unitsPerOne ≤ units)
    else decide (unitsPerOne ≤ units * Nat.pow 10 (-e).toNat)
  let guess := Int.fdiv (((Nat.log2 units : Int) - 1074) * 30103) 100000
  if reaches (guess + 1) then guess + 1
  else if reaches guess then guess
  else guess - 1

/-- Of the two multiples of `10 ^ exponent` around the double with this magnitude, the one that
is nearest among those that read back as it, as a factor of the power. -/
def onGrid? (magnitude : Nat) (exponent : Int) : Option Nat :=
  let units := unitsOfMagnitude magnitude
  let below := (units + unitsOfMagnitude (magnitude - 1)) * Nat.pow 10 (-exponent).toNat
  let above := (units + unitsOfMagnitude (magnitude + 1)) * Nat.pow 10 (-exponent).toNat
  let twice := 2 * units * Nat.pow 10 (-exponent).toNat
  let step := 2 * unitsPerOne * Nat.pow 10 exponent.toNat
  let readsBack (d : Nat) : Bool :=
    if magnitude % 2 = 0 then below ≤ d * step && d * step ≤ above
    else below < d * step && d * step < above
  let d := twice / step
  match readsBack d, readsBack (d + 1) with
  | true, true =>
    let low := twice - d * step
    let high := (d + 1) * step - twice
    some (if low < high then d else if high < low then d + 1 else d + d % 2)
  | true, false => some d
  | false, true => some (d + 1)
  | false, false => none

/-- The shortest decimal that reads back as the positive finite double of this magnitude: its
digits and the exponent of the last one. Seventeen digits always suffice. -/
def shortest (magnitude : Nat) : Nat × Int :=
  let leading := leadingExponent (unitsOfMagnitude magnitude)
  let grids := (List.range 17).map fun (n : Nat) => leading - n
  let hit := grids.findSome? fun exponent =>
    (onGrid? magnitude exponent).map fun d => (d, exponent)
  hit.getD (0, 0)

/-- The shortest digits without trailing zeros, and the place of the point relative to the first
of them. -/
def shortestDigits (magnitude : Nat) : List Char × Int :=
  let (d, exponent) := shortest magnitude
  let ds := Decimal.digits d
  let kept := (ds.reverse.dropWhile (· = '0')).reverse
  (kept, exponent + ds.length)

/-- Digits with the point at the given place and no exponent. -/
def positional (ds : List Char) (point : Int) : List Char :=
  if point ≤ 0 then '0' :: '.' :: (List.replicate (-point).toNat '0' ++ ds)
  else if ds.length ≤ point.toNat then ds ++ List.replicate (point.toNat - ds.length) '0'
  else ds.take point.toNat ++ '.' :: ds.drop point.toNat

/-- The text of a double as it is shown in a field: never an exponent, no point in whole
numbers. -/
def text (x : Binary64) : String :=
  let sign := if x.negative then ['-'] else []
  if x.isNaN then "NaN"
  else if x.magnitude = 0 then String.ofList (sign ++ ['0'])
  else if x.isFinite then
    let (ds, point) := shortestDigits x.magnitude
    String.ofList (sign ++ positional ds point)
  else String.ofList (sign ++ "inf".toList)

/-- The text of a finite double in a document: a point in every number without exponent, and an
exponent for numbers below `10 ^ (-5)` and from `10 ^ 16` on. -/
def documentText (x : Binary64) : String :=
  let sign := if x.negative then ['-'] else []
  if x.magnitude = 0 then String.ofList (sign ++ "0.0".toList)
  else
    let (ds, point) := shortestDigits x.magnitude
    if -5 < point ∧ point ≤ 16 then
      let shown := positional ds point
      String.ofList (sign ++ if shown.contains '.' then shown else shown ++ ".0".toList)
    else
      let mantissa := if ds.length ≤ 1 then ds else ds.take 1 ++ '.' :: ds.drop 1
      String.ofList (sign ++ mantissa ++ 'e' :: Decimal.ofInt (point - 1))

end CrawlAudit.Binary64
