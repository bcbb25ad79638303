import CrawlAudit.Text.Decimal
import CrawlAudit.Text.Hexadecimal

/-!
# Numeric hosts

A host whose last label is a number is an IPv4 address. Its one to four numbers may be written in
decimal, octal or hexadecimal, and the last one fills all the octets that are left.
-/

namespace CrawlAudit.Ipv4

/-- The digits of a number after its radix mark, and the radix. -/
def radix : List Char → Nat × List Char
  | '0' :: 'x' :: ds => (16, ds)
  | '0' :: 'X' :: ds => (16, ds)
  | '0' :: d :: ds => (8, d :: ds)
  | ds => (10, ds)

/-- Reads one number of an address. A radix mark alone is zero. -/
def number? (cs : List Char) : Option Nat :=
  let (base, ds) := radix cs
  if cs.isEmpty then none
  else
    (ds.mapM fun d => (Hexadecimal.digit? d).filter (· < base)).map
      fun values => values.foldl (fun n v => n * base + v) 0

/-- The labels of a host, without the empty one after a final dot. -/
def labels (host : List Char) : List (List Char) :=
  let all := host.splitOn '.'
  if all.getLast? == some [] then all.dropLast else all

/-- Whether a host has to be an address: its last label is all digits or reads as a number. -/
def endsInNumber (host : List Char) : Bool :=
  match (labels host).getLast? with
  | none => false
  | some last => (!last.isEmpty && last.all Decimal.isDigit) || (number? last).isSome

/-- The address of some numbers, if they fit: every one but the last an octet, the last what the
others leave. -/
def ofNumbers? (numbers : List Nat) : Option Nat :=
  let leading := numbers.dropLast
  let last := numbers.getLastD 0
  let free := 4 - leading.length
  if 4 < numbers.length ∨ leading.any (255 < ·) ∨ Nat.pow 256 free ≤ last then none
  else some (leading.foldl (fun n octet => n * 256 + octet) 0 * Nat.pow 256 free + last)

def address? (host : List Char) : Option Nat :=
  ((labels host).mapM number?).bind ofNumbers?

/-- An address as four decimal numbers. -/
def text (address : Nat) : List Char :=
  let octets := [address / 16777216, address / 65536 % 256, address / 256 % 256, address % 256]
  ['.'].intercalate (octets.map Decimal.digits)

end CrawlAudit.Ipv4
