/-!
# Hexadecimal numerals

Natural numbers as hexadecimal digits in either case.
-/

namespace CrawlAudit.Hexadecimal

def digit? (c : Char) : Option Nat :=
  let n := c.toNat
  if '0' ≤ c ∧ c ≤ '9' then some (n - '0'.toNat)
  else if 'a' ≤ c ∧ c ≤ 'f' then some (n - 'a'.toNat + 10)
  else if 'A' ≤ c ∧ c ≤ 'F' then some (n - 'A'.toNat + 10)
  else none

def isDigit (c : Char) : Bool :=
  (digit? c).isSome

/-- The number that a list of digits stands for; other characters count as zero. -/
def value (ds : List Char) : Nat :=
  ds.foldl (fun n d => n * 16 + (digit? d).getD 0) 0

end CrawlAudit.Hexadecimal
