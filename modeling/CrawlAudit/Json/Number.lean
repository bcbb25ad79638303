import CrawlAudit.Binary64.Basic
import CrawlAudit.Json.Basic
import CrawlAudit.Text.Decimal

/-!
# Numbers of a document

A number is read in two steps. Its digits are gathered into a 64 bit significand, as many as fit,
and the significand is then scaled by a power of ten. The scaling rounds once for the significand
and once for the power, so a long numeral may differ from the nearest double in its last bit.
-/

namespace CrawlAudit.Json.Number

/-- The written parts of a number without its sign. `exponent` holds the sign of the exponent,
true for a negative one, and its digits. -/
structure Numeral where
  whole : List Char
  fraction : List Char
  exponent : Option (Bool × List Char)

/-- Gathers digits while the significand fits 64 bits, and counts the digits left over. -/
def gather (significand : Nat) : List Char → Nat × Nat
  | [] => (significand, 0)
  | d :: ds =>
    let next := significand * 10 + (d.toNat - '0'.toNat)
    if next < Nat.pow 2 64 then gather next ds else (significand, ds.length + 1)

def powerOfTen (n : Nat) : Binary64 :=
  Binary64.ofRatio false (Nat.pow 10 n) 1

/-- Divides by a power of ten, in steps of the largest power that is a double. -/
def scaleDown (x : Binary64) (n : Nat) : Binary64 :=
  if n ≤ 308 then x.div (powerOfTen n)
  else if x.magnitude = 0 then x
  else scaleDown (x.div (powerOfTen 308)) (n - 308)
termination_by n

/-- The significand times a power of ten; there is none beyond the largest double. -/
def scale (significand : Nat) (exponent : Int) : Option Binary64 :=
  let x := Binary64.ofInt significand
  if exponent < 0 then some (scaleDown x exponent.natAbs)
  else if exponent ≤ 308 then
    let y := x.mul (powerOfTen exponent.toNat)
    if y.isFinite then some y else none
  else if x.magnitude = 0 then some x
  else none

def signed (negative : Bool) (x : Binary64) : Json :=
  .float (if negative then x.neg else x)

/-- The largest exponent that is taken at its word. -/
def exponentLimit : Nat :=
  Nat.pow 2 31 - 1

/-- The number that a numeral stands for. Past the limit, an exponent makes zero of any
significand when it is negative. -/
def Numeral.value? (negative : Bool) (numeral : Numeral) : Option Json :=
  let (whole, dropped) := gather 0 numeral.whole
  let (significand, unused) := gather whole numeral.fraction
  let places : Int := (dropped : Int) - (numeral.fraction.length - unused : Nat)
  match numeral.exponent with
  | none =>
    if numeral.fraction.isEmpty && dropped == 0 then
      if !negative then some (.int whole)
      else if whole = 0 ∨ Nat.pow 2 63 < whole then some (signed true (Binary64.ofInt whole))
      else some (.int (-(whole : Int)))
    else (scale significand places).map (signed negative)
  | some (down, ds) =>
    let exponent := Decimal.value ds
    if exponentLimit < exponent then
      if significand ≠ 0 ∧ !down then none else some (signed negative Binary64.zero)
    else
      let total := if down then places - exponent else places + exponent
      (scale significand total).map (signed negative)

def splitDigits (cs : List Char) : List Char × List Char :=
  cs.span Decimal.isDigit

/-- Reads the exponent at the front of a text, if it has one. The outer option is none for a
mark without digits. -/
def exponent? : List Char → Option (Option (Bool × List Char) × List Char)
  | c :: cs =>
    if c = 'e' ∨ c = 'E' then
      let (down, rest) :=
        match cs with
        | '-' :: r => (true, r)
        | '+' :: r => (false, r)
        | r => (false, r)
      let (ds, after) := splitDigits rest
      if ds.isEmpty then none else some (some (down, ds), after)
    else some (none, c :: cs)
  | [] => some (none, [])

/-- Reads the numeral at the front of a text: no leading zeros, digits on both sides of a
point. -/
def numeral? (cs : List Char) : Option (Numeral × List Char) :=
  let (whole, rest) := splitDigits cs
  if whole.isEmpty || (whole.head? == some '0' && 1 < whole.length) then none
  else
    match rest with
    | '.' :: r =>
      let (fraction, after) := splitDigits r
      if fraction.isEmpty then none
      else (exponent? after).map fun e => (⟨whole, fraction, e.1⟩, e.2)
    | r => (exponent? r).map fun e => (⟨whole, [], e.1⟩, e.2)

end CrawlAudit.Json.Number
