import CrawlAudit.Text.Decimal
import CrawlAudit.Text.Hexadecimal

/-!
# Quoted text of a document

Reading and writing the characters between two quotes. A character past the basic plane may be
written as two escapes, its surrogates in order; a surrogate on its own stands for nothing and is
refused, as is a bare control character.
-/

namespace CrawlAudit.Json.Quoted

/-- Where the reader stands: at a character, after a backslash, among the four digits of an
escape (the value so far and the number of digits owed), or between the two escapes of a pair.
The last three carry the first surrogate if one has been read. -/
inductive Place where
  | plain
  | escape (high : Option Nat)
  | digits (value owed : Nat) (high : Option Nat)
  | second (high : Nat)

def escaped? : Char → Option Char
  | '"' => some '"'
  | '\\' => some '\\'
  | '/' => some '/'
  | 'b' => some '\x08'
  | 'f' => some '\x0c'
  | 'n' => some '\n'
  | 'r' => some '\r'
  | 't' => some '\t'
  | _ => none

def isHighSurrogate (n : Nat) : Bool :=
  0xD800 ≤ n && n < 0xDC00

def isLowSurrogate (n : Nat) : Bool :=
  0xDC00 ≤ n && n < 0xE000

/-- What a finished escape gives: a character, or a first surrogate that waits for the second. -/
def finishEscape (value : Nat) (high : Option Nat) : Option (List Char × Place) :=
  match high with
  | some h =>
    if isLowSurrogate value then
      some ([Char.ofNat (0x10000 + (h - 0xD800) * 0x400 + (value - 0xDC00))], .plain)
    else none
  | none =>
    if isHighSurrogate value then some ([], .second value)
    else if isLowSurrogate value then none
    else some ([Char.ofNat value], .plain)

/-- What one character inside the quotes gives; none where it cannot stand. -/
def step (place : Place) (c : Char) : Option (List Char × Place) :=
  match place with
  | .plain =>
    if c = '\\' then some ([], .escape none)
    else if c.toNat < 0x20 then none
    else some ([c], .plain)
  | .escape high =>
    if c = 'u' then some ([], .digits 0 4 high)
    else if high.isSome then none
    else (escaped? c).map fun e => ([e], .plain)
  | .digits value owed high =>
    (Hexadecimal.digit? c).bind fun d =>
      if owed = 1 then finishEscape (value * 16 + d) high
      else some ([], .digits (value * 16 + d) (owed - 1) high)
  | .second high => if c = '\\' then some ([], .escape (some high)) else none

/-- Reads up to the closing quote; gives the text and what follows the quote. -/
def read? (place : Place) : List Char → Option (List Char × List Char)
  | [] => none
  | c :: cs =>
    match place, c with
    | .plain, '"' => some ([], cs)
    | _, _ =>
      match step place c with
      | none => none
      | some (given, next) => (read? next cs).map fun r => (given ++ r.1, r.2)

def hexDigits (n : Nat) : List Char :=
  [n / 4096, n / 256 % 16, n / 16 % 16, n % 16].map Nat.digitChar

/-- A character as it stands between quotes. -/
def encodeChar (c : Char) : List Char :=
  match c with
  | '"' => ['\\', '"']
  | '\\' => ['\\', '\\']
  | '\x08' => ['\\', 'b']
  | '\x0c' => ['\\', 'f']
  | '\n' => ['\\', 'n']
  | '\r' => ['\\', 'r']
  | '\t' => ['\\', 't']
  | c => if c.toNat < 0x20 then '\\' :: 'u' :: hexDigits c.toNat else [c]

def encode (s : String) : List Char :=
  '"' :: s.toList.flatMap encodeChar ++ ['"']

end CrawlAudit.Json.Quoted
