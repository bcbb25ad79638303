import CrawlAudit.Pattern.Basic
import CrawlAudit.Pattern.Named
import CrawlAudit.Text.Blank

/-!
# Flags of patterns

How the parts of a pattern are meant, and the blanks that are skipped where the verbose flag is
set.
-/

namespace CrawlAudit

structure PatternFlags where
  ignoreCase : Bool
  multiLine : Bool
  dotAll : Bool
  unicode : Bool
  /-- A carriage return ends lines too. -/
  anyLineEnd : Bool
  /-- Blanks and comments do not count. -/
  verbose : Bool

namespace PatternFlags

def initial : PatternFlags :=
  ⟨false, false, false, true, false, false⟩

/-- Sets the flag of a letter. Which of two matches is preferred has no influence on whether there
is one. -/
def set? (flags : PatternFlags) (value : Bool) : Char → Option PatternFlags
  | 'i' => some { flags with ignoreCase := value }
  | 'm' => some { flags with multiLine := value }
  | 's' => some { flags with dotAll := value }
  | 'u' => some { flags with unicode := value }
  | 'R' => some { flags with anyLineEnd := value }
  | 'x' => some { flags with verbose := value }
  | 'U' => some flags
  | _ => none

/-- Sets the flags of some letters; those after a minus sign are taken away. -/
def setAll? (flags : PatternFlags) (value : Bool) : List Char → Option PatternFlags
  | [] => some flags
  | '-' :: letters => flags.setAll? false letters
  | letter :: letters => (flags.set? value letter).bind fun next => next.setAll? value letters

/-- Reads letters of flags: each at most once, and none missing after the minus sign. -/
def read? (flags : PatternFlags) (letters : List Char) : Option PatternFlags :=
  if letters.eraseDups.length = letters.length ∧ letters.getLast? ≠ some '-' then
    flags.setAll? true letters
  else none

/-- A set as it is meant, with its counterparts in the other case if case is ignored. -/
def fold (flags : PatternFlags) (set : CharSet) : CharSet :=
  if !flags.ignoreCase then set
  else if flags.unicode then .folded set
  else .foldedAscii set

/-- The complement of a set. Without the Unicode flag it would go beyond ASCII. -/
def complement? (flags : PatternFlags) (set : CharSet) : Option CharSet :=
  if flags.unicode then some (.complement set) else none

def negate? (flags : PatternFlags) (negated : Bool) (set : CharSet) : Option CharSet :=
  if negated then flags.complement? set else some set

/-- The code point of a character in brackets. Without the Unicode flag it is an ASCII one. -/
def code? (flags : PatternFlags) (c : Char) : Option Nat :=
  if flags.unicode || c.toNat < 0x80 then some c.toNat else none

def wordLetters (flags : PatternFlags) : CharSet :=
  let letters := CharSet.Shorthand.word
  .codes (if flags.unicode then letters.codes else letters.asciiCodes)

/-- The characters that a dot stands for. Without the Unicode flag it would stand for octets. -/
def dot? (flags : PatternFlags) : Option CharSet :=
  if !flags.unicode then none
  else if flags.dotAll then some .all
  else if flags.anyLineEnd then some (.complement (.codes (.ofText "a d")))
  else some (.complement (.single '\n'))

/-- What `^` asks of a place. -/
def lineStart (flags : PatternFlags) : Assertion :=
  if !flags.multiLine then .textStart
  else if flags.anyLineEnd then .anyLineStart
  else .lineStart

/-- What `$` asks of a place. -/
def lineEnd (flags : PatternFlags) : Assertion :=
  if !flags.multiLine then .textEnd
  else if flags.anyLineEnd then .anyLineEnd
  else .lineEnd

/-- The text from the first character that counts when blanks and comments do not; a comment lasts
to the end of its line. -/
def afterLayout (inComment : Bool) : List Char → List Char
  | [] => []
  | c :: cs =>
    if inComment then afterLayout (c != '\n') cs
    else if Blank.isBlank c then afterLayout false cs
    else if c == '#' then afterLayout true cs
    else c :: cs

/-- The text from the first character that counts. -/
def skip (flags : PatternFlags) (cs : List Char) : List Char :=
  if flags.verbose then afterLayout false cs else cs

theorem length_afterLayout_le (inComment : Bool) (cs : List Char) :
    (afterLayout inComment cs).length ≤ cs.length := by
  induction cs generalizing inComment with
  | nil => simp [afterLayout]
  | cons c cs ih =>
    have h (b : Bool) : (afterLayout b cs).length ≤ cs.length + 1 := Nat.le_succ_of_le (ih b)
    simp only [afterLayout, List.length_cons]
    split
    · exact h _
    · split
      · exact h _
      · split
        · exact h _
        · simp

theorem length_skip_le (flags : PatternFlags) (cs : List Char) :
    (flags.skip cs).length ≤ cs.length := by
  unfold skip
  split
  · exact length_afterLayout_le false cs
  · exact Nat.le_refl _

/-- The characters from the front of a text that pass a test, and the rest. What does not count is
skipped after each of them. -/
def span (flags : PatternFlags) (test : Char → Bool) : List Char → List Char × List Char
  | [] => ([], [])
  | c :: cs =>
    if test c then
      let (front, rest) := flags.span test (flags.skip cs)
      (c :: front, rest)
    else ([], c :: cs)
termination_by cs => cs.length
decreasing_by
  simp only [List.length_cons]
  exact Nat.lt_succ_of_le (length_skip_le flags cs)

end PatternFlags

end CrawlAudit
