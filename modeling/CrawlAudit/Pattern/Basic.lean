import CrawlAudit.Pattern.CharSet
import CrawlAudit.Text.Property

/-!
# Patterns

A pattern describes pieces of a text. Some parts of it take up no characters but look at what
stands before and after a place.
-/

namespace CrawlAudit

/-- What is asked of the words around a place. -/
inductive WordEdge where
  | boundary
  | noBoundary
  | wordStart
  | wordEnd
  /-- No word before the place. -/
  | startHalf
  /-- No word after the place. -/
  | endHalf
  deriving DecidableEq

/-- What is asked of a place. -/
inductive Assertion where
  | textStart
  | textEnd
  | lineStart
  | lineEnd
  /-- A line start where a carriage return ends lines too. -/
  | anyLineStart
  | anyLineEnd
  | word (edge : WordEdge) (letters : CharSet)

inductive Pattern where
  | empty
  | one (set : CharSet)
  | assertion (test : Assertion)
  | sequence (p q : Pattern)
  | either (p q : Pattern)
  | repeated (p : Pattern) (least : Nat) (most : Option Nat)

namespace WordEdge

/-- Whether the edge is there, given whether a word character stands before and after. -/
def holds (edge : WordEdge) (before after : Bool) : Bool :=
  match edge with
  | .boundary => before != after
  | .noBoundary => before == after
  | .wordStart => !before && after
  | .wordEnd => before && !after
  | .startHalf => !before
  | .endHalf => !after

end WordEdge

namespace Assertion

/-- Whether a place between two characters is as asked; there may be none before or after. -/
def holds (test : Assertion) (before after : Option Char) : Bool :=
  match test with
  | .textStart => before.isNone
  | .textEnd => after.isNone
  | .lineStart => before.isNone || before == some '\n'
  | .lineEnd => after.isNone || after == some '\n'
  | .anyLineStart =>
    before.isNone || before == some '\n' || (before == some '\r' && after != some '\n')
  | .anyLineEnd =>
    after.isNone || after == some '\r' || (after == some '\n' && before != some '\r')
  | .word edge letters => edge.holds (before.any letters.has) (after.any letters.has)

end Assertion

namespace Pattern

/-- Whether a pattern takes up no characters. -/
def isWidthless : Pattern → Bool
  | .empty | .assertion _ => true
  | .one _ => false
  | .sequence p q | .either p q => p.isWidthless && q.isWidthless
  | .repeated p _ most => p.isWidthless || most == some 0

end Pattern

end CrawlAudit
