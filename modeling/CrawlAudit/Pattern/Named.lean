import CrawlAudit.Pattern.CharSet
import CrawlAudit.Text.Property
import CrawlAudit.Text.Script

/-!
# Named sets of characters

The sets that patterns call by name: the classes of digits, blanks and words, the ASCII classes,
and the Unicode properties with their short and long names.
-/

namespace CrawlAudit.CharSet

/-- Digits, blanks and word characters, by their letter in lower case. -/
inductive Shorthand where
  | digit
  | blank
  | word
  deriving DecidableEq

namespace Shorthand

def ofLetter? : Char → Option Shorthand
  | 'd' => some .digit
  | 's' => some .blank
  | 'w' => some .word
  | _ => none

/-- The characters of a class among all characters. -/
def codes : Shorthand → CodeSet
  | .digit => GeneralCategory.codes .decimalNumber
  | .blank => Property.whiteSpace
  | .word => Property.word

/-- The characters of a class among the ASCII ones. -/
def asciiCodes : Shorthand → CodeSet
  | .digit => .ofText "30-39"
  | .blank => .ofText "9-d 20"
  | .word => .ofText "30-39 41-5a 5f 61-7a"

end Shorthand

def asciiClasses : List (String × CodeSet) :=
  [("alnum", .ofText "30-39 41-5a 61-7a"), ("alpha", .ofText "41-5a 61-7a"),
    ("ascii", .ofText "0-7f"), ("blank", .ofText "9 20"), ("cntrl", .ofText "0-1f 7f"),
    ("digit", .ofText "30-39"), ("graph", .ofText "21-7e"), ("lower", .ofText "61-7a"),
    ("print", .ofText "20-7e"), ("punct", .ofText "21-2f 3a-40 5b-60 7b-7e"),
    ("space", .ofText "9-d 20"), ("upper", .ofText "41-5a"),
    ("word", .ofText "30-39 41-5a 5f 61-7a"), ("xdigit", .ofText "30-39 41-46 61-66")]

/-- A property name in lower case without the marks between words and without a leading `is`. The
name `isc` is one of its own. -/
def normalizeName (name : List Char) : String :=
  let isMark (c : Char) : Bool := [' ', '_', '-'].contains c
  let bare (cs : List Char) : List Char :=
    (cs.filter fun c => c.toNat < 0x80 && !isMark c).map Char.toLower
  match name with
  | a :: b :: rest =>
    if [a, b].map Char.toLower == ['i', 's'] then
      if bare rest == ['c'] then "isc" else String.ofList (bare rest)
    else String.ofList (bare name)
  | _ => String.ofList (bare name)

/-- The general categories and groups of them by their normalized names. -/
def categories : List (List String × List GeneralCategory) :=
  [(["lu", "uppercaseletter"], [.uppercaseLetter]),
    (["ll", "lowercaseletter"], [.lowercaseLetter]),
    (["lt", "titlecaseletter"], [.titlecaseLetter]),
    (["lc", "casedletter"], [.uppercaseLetter, .lowercaseLetter, .titlecaseLetter]),
    (["lm", "modifierletter"], [.modifierLetter]),
    (["lo", "otherletter"], [.otherLetter]),
    (["l", "letter"], GeneralCategory.letters),
    (["mn", "nonspacingmark"], [.nonspacingMark]),
    (["mc", "spacingmark"], [.spacingMark]),
    (["me", "enclosingmark"], [.enclosingMark]),
    (["m", "mark", "combiningmark"], GeneralCategory.marks),
    (["nd", "decimalnumber", "digit"], [.decimalNumber]),
    (["nl", "letternumber"], [.letterNumber]),
    (["no", "othernumber"], [.otherNumber]),
    (["n", "number"], GeneralCategory.numbers),
    (["pc", "connectorpunctuation"], [.connectorPunctuation]),
    (["pd", "dashpunctuation"], [.dashPunctuation]),
    (["ps", "openpunctuation"], [.openPunctuation]),
    (["pe", "closepunctuation"], [.closePunctuation]),
    (["pi", "initialpunctuation"], [.initialPunctuation]),
    (["pf", "finalpunctuation"], [.finalPunctuation]),
    (["po", "otherpunctuation"], [.otherPunctuation]),
    (["p", "punctuation", "punct"], GeneralCategory.punctuation),
    (["sm", "mathsymbol"], [.mathSymbol]),
    (["sc", "currencysymbol"], [.currencySymbol]),
    (["sk", "modifiersymbol"], [.modifierSymbol]),
    (["so", "othersymbol"], [.otherSymbol]),
    (["s", "symbol"], GeneralCategory.symbols),
    (["zs", "spaceseparator"], [.spaceSeparator]),
    (["zl", "lineseparator"], [.lineSeparator]),
    (["zp", "paragraphseparator"], [.paragraphSeparator]),
    (["z", "separator"], GeneralCategory.separators),
    (["cc", "control", "cntrl"], [.control]),
    (["cf", "format"], [.format]),
    (["co", "privateuse"], [.privateUse])]

/-- The characters without a general category. -/
def unassigned : CharSet :=
  .complement (.codes GeneralCategory.assigned)

def category? (name : String) : Option CharSet :=
  if name = "any" then some all
  else if name = "ascii" then some (range 0 0x7F)
  else if name = "assigned" then some (.codes GeneralCategory.assigned)
  else if name = "cn" ∨ name = "unassigned" then some unassigned
  else if name = "c" ∨ name = "other" then
    some (.union (.codes (GeneralCategory.codesOf [.control, .format, .privateUse])) unassigned)
  else
    (categories.find? fun c => c.1.contains name).map fun c =>
      .codes (GeneralCategory.codesOf c.2)

/-- The characters that identifiers may start with. -/
def idStart : CharSet :=
  .difference
    (.codes (GeneralCategory.codesOf (.letterNumber :: GeneralCategory.letters) ++
      Property.otherIdStart))
    (.codes (Property.patternSyntax ++ Property.patternWhiteSpace))

/-- The characters that identifiers may have after their first one. -/
def idContinue : CharSet :=
  .union idStart
    (.codes (GeneralCategory.codesOf
      [.nonspacingMark, .spacingMark, .decimalNumber, .connectorPunctuation] ++
      Property.otherIdContinue))

/-- The characters that take up room of their own. -/
def graphemeBase : CharSet :=
  .difference
    (.difference (.codes GeneralCategory.assigned)
      (.codes (GeneralCategory.codesOf
        [.control, .format, .privateUse, .lineSeparator, .paragraphSeparator])))
    (.codes Property.graphemeExtend)

/-- The properties that characters have or not, by their normalized names. -/
def properties : List (List String × CharSet) :=
  [(["ahex", "asciihexdigit"], .codes Property.asciiHexDigit),
    (["alpha", "alphabetic"], .codes Property.alphabetic),
    (["bidic", "bidicontrol"], .codes Property.bidiControl),
    (["bidim", "bidimirrored"], .codes Property.bidiMirrored),
    (["ci", "caseignorable"], .codes Property.caseIgnorable),
    (["cased"], .codes Property.cased),
    (["dash"], .codes Property.dash),
    (["di", "defaultignorablecodepoint"], .codes Property.defaultIgnorable),
    (["dep", "deprecated"], .codes Property.deprecatedCode),
    (["dia", "diacritic"], .codes Property.diacritic),
    (["emoji"], .codes Property.emoji),
    (["ecomp", "emojicomponent"], .codes Property.emojiComponent),
    (["emod", "emojimodifier"], .codes Property.emojiModifier),
    (["ebase", "emojimodifierbase"], .codes Property.emojiModifierBase),
    (["epres", "emojipresentation"], .codes Property.emojiPresentation),
    (["extpict", "extendedpictographic"], .codes Property.extendedPictographic),
    (["ext", "extender"], .codes Property.extender),
    (["grbase", "graphemebase"], graphemeBase),
    (["grext", "graphemeextend"], .codes Property.graphemeExtend),
    (["hex", "hexdigit"], .codes Property.hexDigit),
    (["idsb", "idsbinaryoperator"], .codes Property.ideographicBinary),
    (["idst", "idstrinaryoperator"], .codes Property.ideographicTrinary),
    (["idc", "idcontinue"], idContinue),
    (["ids", "idstart"], idStart),
    (["ideo", "ideographic"], .codes Property.ideographic),
    (["joinc", "joincontrol"], .codes Property.joinControl),
    (["loe", "logicalorderexception"], .codes Property.logicalOrderException),
    (["lower", "lowercase"], .codes Property.lowercase),
    (["math"], .codes Property.math),
    (["nchar", "noncharactercodepoint"], .codes Property.noncharacter),
    (["patsyn", "patternsyntax"], .codes Property.patternSyntax),
    (["patws", "patternwhitespace"], .codes Property.patternWhiteSpace),
    (["qmark", "quotationmark"], .codes Property.quotationMark),
    (["radical"], .codes Property.radical),
    (["ri", "regionalindicator"], .codes Property.regionalIndicator),
    (["sterm", "sentenceterminal"], .codes Property.sentenceTerminal),
    (["sd", "softdotted"], .codes Property.softDotted),
    (["term", "terminalpunctuation"], .codes Property.terminalPunctuation),
    (["uideo", "unifiedideograph"], .codes Property.unifiedIdeograph),
    (["upper", "uppercase"], .codes Property.uppercase),
    (["vs", "variationselector"], .codes Property.variationSelector),
    (["space", "wspace", "whitespace"], .codes Property.whiteSpace),
    (["xidc", "xidcontinue"], .difference idContinue (.codes Property.notExtendedIdContinue)),
    (["xids", "xidstart"], .difference idStart (.codes Property.notExtendedIdStart))]

/-- The set of a property with a normalized value: a category or a script. -/
def ofValue? (property value : String) : Option CharSet :=
  if ["gc", "generalcategory"].contains property then category? value
  else if ["sc", "script"].contains property then (Script.named? value).map .codes
  else none

/-- The set of a normalized name: a property, a category or a script. -/
def ofName? (name : String) : Option CharSet :=
  ((((properties.find? fun p => p.1.contains name).map Prod.snd).or (category? name)).or
    ((Script.named? name).map .codes))

/-- Splits a text at the first occurrence of a mark. -/
def splitAtMark? (mark : List Char) : List Char → Option (List Char × List Char)
  | [] => none
  | c :: cs =>
    if mark.isPrefixOf (c :: cs) then some ([], (c :: cs).drop mark.length)
    else (splitAtMark? mark cs).map fun halves => (c :: halves.1, halves.2)

/-- The set that stands in braces: a name, or a property and its value. -/
def named? (content : List Char) : Option CharSet :=
  match ((splitAtMark? ['!', '='] content).or (splitAtMark? [':'] content)).or
      (splitAtMark? ['='] content) with
  | some (property, value) => ofValue? (normalizeName property) (normalizeName value)
  | none => ofName? (normalizeName content)

end CrawlAudit.CharSet
