import CrawlAudit.Order

/-!
# Punycode

A text of any characters as one of ASCII characters: first the ASCII characters themselves, then
the places of the others, in ascending order of their code points, as numbers of variable length
with digits to the base 36.
-/

namespace CrawlAudit.Punycode

def digit (value : Nat) : Char :=
  Char.ofNat (if value < 26 then value + 0x61 else value - 26 + 0x30)

/-- The value of a digit in either case. -/
def digit? (c : Char) : Option Nat :=
  if c.isDigit then some (c.toNat - 0x30 + 26)
  else if c.isAlpha then some (c.toLower.toNat - 0x61)
  else none

/-- The least value that is not the last digit of a number, at a position that counts in steps of
36. -/
def threshold (bias position : Nat) : Nat :=
  if position ≤ bias then 1 else if bias + 26 ≤ position then 26 else position - bias

theorem threshold_pos (bias position : Nat) : 0 < threshold bias position := by
  unfold threshold
  split
  · omega
  · split <;> omega

/-- The bias for a difference, after it has been scaled down. -/
def settle (delta bias : Nat) : Nat :=
  if 455 < delta then settle (delta / 35) (bias + 36) else bias + 36 * delta / (delta + 38)
termination_by delta
decreasing_by exact Nat.div_lt_self (by omega) (by omega)

/-- The bias after a difference, when there are `count` characters. -/
def adapt (delta count : Nat) (first : Bool) : Nat :=
  let scaled := if first then delta / 700 else delta / 2
  settle (scaled + scaled / count) 0

/-- The digits of a number, from the given position on. -/
def numeral (bias position value : Nat) : List Char :=
  let t := threshold bias position
  if value < t then [digit value]
  else digit (t + (value - t) % (36 - t)) :: numeral bias (position + 36) ((value - t) / (36 - t))
termination_by value
decreasing_by
  have := threshold_pos bias position
  exact Nat.lt_of_le_of_lt (Nat.div_le_self _ _) (by omega)

/-- Reads the digits of a number, each worth `weight` times its value. -/
def number? (bias position weight : Nat) : List Char → Option (Nat × List Char)
  | [] => none
  | c :: cs =>
    match digit? c with
    | none => none
    | some d =>
      let t := threshold bias position
      if d < t then some (d * weight, cs)
      else
        (number? bias (position + 36) (weight * (36 - t)) cs).map fun r => (d * weight + r.1, r.2)

theorem length_of_number? {bias position weight value : Nat} {cs rest : List Char}
    (h : number? bias position weight cs = some (value, rest)) : rest.length < cs.length := by
  induction cs generalizing position weight value rest with
  | nil => simp [number?] at h
  | cons c cs ih =>
    simp only [number?] at h
    split at h
    · simp at h
    · split at h
      · simp only [Option.some.injEq, Prod.mk.injEq] at h
        simp [← h.2]
      · obtain ⟨⟨v, r⟩, hr, he⟩ := Option.map_eq_some_iff.1 h
        simp only [Prod.mk.injEq] at he
        have := ih hr
        simp only [List.length_cons, ← he.2]
        omega

/-- Characters in their order, the code point put in last and the place after it, and the bias for
the next number; `fresh` holds before the first number. -/
structure Progress where
  codes : List Nat
  last : Nat
  place : Nat
  bias : Nat
  fresh : Bool

namespace Progress

/-- The state in which only the ASCII characters are in their places. -/
def start (codes : List Nat) : Progress :=
  ⟨codes, 0x80, 0, 72, true⟩

/-- The number of characters when there will be one more. -/
def count (progress : Progress) : Nat :=
  progress.codes.length + 1

/-- Puts in the character that a number stands for. -/
def insert? (progress : Progress) (delta : Nat) : Option Progress :=
  let distance := progress.place + delta
  let code := progress.last + distance / progress.count
  let spot := distance % progress.count
  if code.isValidChar then
    some ⟨progress.codes.insertIdx spot code, code, spot + 1,
      adapt delta progress.count progress.fresh, false⟩
  else none

def finish? (progress : Progress) (cs : List Char) : Option (List Nat) :=
  if cs.isEmpty then some progress.codes
  else
    match _h : number? progress.bias 36 1 cs with
    | none => none
    | some (delta, rest) =>
      match progress.insert? delta with
      | some next => next.finish? rest
      | none => none
termination_by cs.length
decreasing_by exact length_of_number? _h

end Progress

/-- Splits a text at its last minus sign; one at its front does not count. -/
def splitBasic (cs : List Char) : List Char × List Char :=
  let (back, front) := cs.reverse.span (· != '-')
  match front with
  | _ :: basic => if basic.isEmpty then ([], cs) else (basic.reverse, back.reverse)
  | [] => ([], cs)

/-- Reads a text of ASCII characters. -/
def decode? (cs : List Char) : Option (List Nat) :=
  let (basic, numbers) := splitBasic cs
  (Progress.start (basic.map Char.toNat)).finish? numbers

/-- The numerals written so far, the distance from the last place, the bias, and the number of
characters that have a place. -/
structure Writing where
  numerals : List Char
  delta : Nat
  bias : Nat
  placed : Nat

namespace Writing

/-- Looks at one character while those with the given code point get their places. `basic` is the
number of ASCII characters. -/
def step (basic code : Nat) (writing : Writing) (c : Nat) : Writing :=
  if c < code then { writing with delta := writing.delta + 1 }
  else if c = code then
    { numerals := writing.numerals ++ numeral writing.bias 36 writing.delta
      delta := 0
      bias := adapt writing.delta (writing.placed + 1) (writing.placed == basic)
      placed := writing.placed + 1 }
  else writing

/-- Gives the characters with the given code points their places, from the code point on that
comes after the last one. -/
def run (basic : Nat) (codes : List Nat) (writing : Writing) : Nat → List Nat → Writing
  | _, [] => writing
  | next, code :: others =>
    let skipped := { writing with delta := writing.delta + (code - next) * (writing.placed + 1) }
    let after := codes.foldl (step basic code) skipped
    run basic codes { after with delta := after.delta + 1 } (code + 1) others

end Writing

/-- The text of ASCII characters for some characters. -/
def encode (codes : List Nat) : List Char :=
  let basic := codes.filter (· < 0x80)
  let others := Order.sort (fun (a b : Nat) => Order.integers a b) (codes.filter (0x80 ≤ ·))
  let written := Writing.run basic.length codes ⟨[], 0, 72, basic.length⟩ 0x80 others.eraseDups
  basic.map Char.ofNat ++ (if basic.isEmpty then [] else ['-']) ++ written.numerals

end CrawlAudit.Punycode
