/-!
# Blank characters

The characters of the Unicode property White_Space, and text without them at its ends.
-/

namespace CrawlAudit.Blank

/-- The property White_Space. The byte order mark and the zero width space do not have it. -/
def isBlank (c : Char) : Bool :=
  let n := c.toNat
  (9 ≤ n && n ≤ 13) || n == 32 || n == 0x85 || n == 0xA0 || n == 0x1680 ||
    (0x2000 ≤ n && n ≤ 0x200A) || n == 0x2028 || n == 0x2029 || n == 0x202F ||
    n == 0x205F || n == 0x3000

/-- The text from the first to the last character that is not blank. -/
def trim (cs : List Char) : List Char :=
  ((cs.dropWhile isBlank).reverse.dropWhile isBlank).reverse

/-- The characters of a text without its blank ends. -/
def trimmed (s : String) : List Char :=
  trim s.toList

/-- Whether a text has nothing but blanks. -/
def allBlank (cs : List Char) : Bool :=
  cs.all isBlank

end CrawlAudit.Blank
