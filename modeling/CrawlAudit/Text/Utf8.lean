/-!
# UTF-8

One pass over the octets yields the characters, with a gap for every maximal run of octets that
begins a character and does not finish one. A text is well formed when there is no gap; read
leniently, every gap is a replacement character.
-/

namespace CrawlAudit.Utf8

/-- A character of which some octets are still owed: the bits read so far, the number of octets
owed, and the range of the next one. -/
structure Pending where
  value : Nat
  owed : Nat
  low : Nat
  high : Nat
  deriving DecidableEq

/-- What an octet between characters gives, and the character it leaves pending. The range of
the second octet excludes long forms, surrogates and numbers past the last character. -/
def start (b : Nat) : List (Option Char) × Option Pending :=
  if b < 0x80 then ([some (Char.ofNat b)], none)
  else if 0xC2 ≤ b ∧ b ≤ 0xDF then ([], some ⟨b % 32, 1, 0x80, 0xBF⟩)
  else if b = 0xE0 then ([], some ⟨0, 2, 0xA0, 0xBF⟩)
  else if b = 0xED then ([], some ⟨13, 2, 0x80, 0x9F⟩)
  else if 0xE1 ≤ b ∧ b ≤ 0xEF then ([], some ⟨b % 16, 2, 0x80, 0xBF⟩)
  else if b = 0xF0 then ([], some ⟨0, 3, 0x90, 0xBF⟩)
  else if 0xF1 ≤ b ∧ b ≤ 0xF3 then ([], some ⟨b % 8, 3, 0x80, 0xBF⟩)
  else if b = 0xF4 then ([], some ⟨4, 3, 0x80, 0x8F⟩)
  else ([none], none)

/-- What an octet gives after the ones before it. -/
def step (pending : Option Pending) (b : Nat) : List (Option Char) × Option Pending :=
  match pending with
  | none => start b
  | some p =>
    if p.low ≤ b ∧ b ≤ p.high then
      let value := p.value * 64 + b % 64
      if p.owed = 1 then ([some (Char.ofNat value)], none)
      else ([], some ⟨value, p.owed - 1, 0x80, 0xBF⟩)
    else
      let (given, next) := start b
      (none :: given, next)

/-- The characters and gaps of the octets that follow a pending character. -/
def unitsAfter (pending : Option Pending) : List UInt8 → List (Option Char)
  | [] => if pending.isSome then [none] else []
  | b :: rest => (step pending b.toNat).1 ++ unitsAfter (step pending b.toNat).2 rest

/-- The characters and gaps of a sequence of octets. -/
def units (octets : List UInt8) : List (Option Char) :=
  unitsAfter none octets

/-- The characters of well formed octets. -/
def decode? (octets : List UInt8) : Option (List Char) :=
  (units octets).mapM id

/-- The characters of any octets, gaps shown as replacement characters. -/
def decodeLenient (octets : List UInt8) : List Char :=
  (units octets).map fun c => c.getD '\uFFFD'

def encodeChar (c : Char) : List UInt8 :=
  let n := c.toNat
  if n < 0x80 then [UInt8.ofNat n]
  else if n < 0x800 then [UInt8.ofNat (0xC0 + n / 64), UInt8.ofNat (0x80 + n % 64)]
  else if n < 0x10000 then
    [UInt8.ofNat (0xE0 + n / 4096), UInt8.ofNat (0x80 + n / 64 % 64),
      UInt8.ofNat (0x80 + n % 64)]
  else
    [UInt8.ofNat (0xF0 + n / 262144), UInt8.ofNat (0x80 + n / 4096 % 64),
      UInt8.ofNat (0x80 + n / 64 % 64), UInt8.ofNat (0x80 + n % 64)]

def encode (cs : List Char) : List UInt8 :=
  cs.flatMap encodeChar

end CrawlAudit.Utf8
