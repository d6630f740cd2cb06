import PocketCalculator.Text.Blank
import PocketCalculator.Text.Case
import PocketCalculator.Text.Category

/-!
# Sets of characters

The sets of characters that a pattern can name: digits, word characters and white space, the classes
of ASCII, and the general categories by their names. A set is a test on characters.
-/

namespace PocketCalculator.Pattern

open Text

/-- A set of characters. -/
abbrev CharSet := Char → Bool

namespace CharSet

/-- A single character. -/
def single (c : Char) : CharSet := fun d => d == c

/-- The characters from the first to the last. -/
def range (first last : Char) : CharSet := fun c => first ≤ c && c ≤ last

/-- The characters that are not in the set. -/
def complement (s : CharSet) : CharSet := fun c => !s c

/-- The characters of either set. -/
def union (s t : CharSet) : CharSet := fun c => s c || t c

/-- The characters of both sets. -/
def intersection (s t : CharSet) : CharSet := fun c => s c && t c

/-- The characters of the first set that are not in the second. -/
def difference (s t : CharSet) : CharSet := fun c => s c && !t c

/-- The characters of exactly one of the sets. -/
def symmetricDifference (s t : CharSet) : CharSet := fun c => s c ^^ t c

/-- The characters that are in the set but for case. -/
def caseless (s : CharSet) : CharSet := fun c => (caseVariants c).any s

/-- The characters that are in the set but for the case of the letters of ASCII. -/
def caselessAscii (s : CharSet) : CharSet := fun c => s c || s c.toLower || s c.toUpper

/-! ## Digits, words and white space -/

/-- The decimal digits of all scripts. -/
def digit : CharSet := fun c => category c == .Nd

/-- The symbols and joiners that count as word characters: circled and squared letters, and the two
characters of no width that join or part letters. -/
def wordSymbols : List (Nat × Nat) := [
  (0x200C, 0x200D), (0x24B6, 0x24E9), (0x1F130, 0x1F149), (0x1F150, 0x1F169), (0x1F170, 0x1F189)]

/-- The word characters: letters, marks, decimal digits and the like. -/
def word : CharSet := fun c =>
  let kind := category c
  kind.isLetter || kind.isMark || kind == .Nd || kind == .Nl || kind == .Pc
    || inRanges wordSymbols c

/-- The word characters of ASCII. -/
def asciiWord : CharSet := fun c => c.isAlphanum || c == '_'

/-- The white space of ASCII. -/
def asciiSpace : CharSet := fun c => c == ' ' || range '\t' '\r' c

/-! ## Classes of ASCII -/

/-- The class of ASCII with the given name. -/
def ofAsciiName? (name : List Char) : Option CharSet :=
  match String.ofList name with
  | "alnum" => some Char.isAlphanum
  | "alpha" => some Char.isAlpha
  | "ascii" => some (range '\x00' '\x7f')
  | "blank" => some fun c => c == ' ' || c == '\t'
  | "cntrl" => some (union (range '\x00' '\x1f') (single '\x7f'))
  | "digit" => some Char.isDigit
  | "graph" => some (range '!' '~')
  | "lower" => some Char.isLower
  | "print" => some (range ' ' '~')
  | "punct" => some fun c => range '!' '~' c && !c.isAlphanum
  | "space" => some asciiSpace
  | "upper" => some Char.isUpper
  | "word" => some asciiWord
  | "xdigit" => some fun c => c.isDigit || range 'a' 'f' c || range 'A' 'F' c
  | _ => none

/-! ## General categories -/

/-- A name of a category or a family of categories, as it may be written: without regard to case,
blanks, hyphens, underscores, and a leading `is`. -/
def plainName (name : List Char) : String :=
  let letters := (name.filter fun c => !(c == ' ' || c == '-' || c == '_')).map Char.toLower
  String.ofList (if ['i', 's'].isPrefixOf letters then letters.drop 2 else letters)

/-- The categories with the given plain name. -/
def categoriesNamed? : String → Option (Category → Bool)
  | "lu" | "uppercaseletter" => some (· == .Lu)
  | "ll" | "lowercaseletter" => some (· == .Ll)
  | "lt" | "titlecaseletter" => some (· == .Lt)
  | "lc" | "casedletter" => some fun k => k == .Lu || k == .Ll || k == .Lt
  | "lm" | "modifierletter" => some (· == .Lm)
  | "lo" | "otherletter" => some (· == .Lo)
  | "l" | "letter" => some Category.isLetter
  | "mn" | "nonspacingmark" => some (· == .Mn)
  | "mc" | "spacingmark" => some (· == .Mc)
  | "me" | "enclosingmark" => some (· == .Me)
  | "m" | "mark" | "combiningmark" => some Category.isMark
  | "nd" | "decimalnumber" | "digit" => some (· == .Nd)
  | "nl" | "letternumber" => some (· == .Nl)
  | "no" | "othernumber" => some (· == .No)
  | "n" | "number" => some Category.isNumber
  | "pc" | "connectorpunctuation" => some (· == .Pc)
  | "pd" | "dashpunctuation" => some (· == .Pd)
  | "ps" | "openpunctuation" => some (· == .Ps)
  | "pe" | "closepunctuation" => some (· == .Pe)
  | "pi" | "initialpunctuation" => some (· == .Pi)
  | "pf" | "finalpunctuation" => some (· == .Pf)
  | "po" | "otherpunctuation" => some (· == .Po)
  | "p" | "punct" | "punctuation" => some Category.isPunctuation
  | "sm" | "mathsymbol" => some (· == .Sm)
  | "sc" | "currencysymbol" => some (· == .Sc)
  | "sk" | "modifiersymbol" => some (· == .Sk)
  | "so" | "othersymbol" => some (· == .So)
  | "s" | "symbol" => some Category.isSymbol
  | "zs" | "spaceseparator" => some (· == .Zs)
  | "zl" | "lineseparator" => some (· == .Zl)
  | "zp" | "paragraphseparator" => some (· == .Zp)
  | "z" | "separator" => some Category.isSeparator
  | "cc" | "control" | "cntrl" => some (· == .Cc)
  | "cf" | "format" => some (· == .Cf)
  | "cs" | "surrogate" => some (· == .Cs)
  | "co" | "privateuse" => some (· == .Co)
  | "cn" | "unassigned" => some (· == .Cn)
  | "c" | "other" => some Category.isOther
  | "any" => some fun _ => true
  | "assigned" => some (· != .Cn)
  | _ => none

/-- The set with the given name: all of ASCII, white space, or the characters of a category or of a
family of categories. -/
def ofName? (name : List Char) : Option CharSet :=
  match plainName name with
  | "ascii" => some (range '\x00' '\x7f')
  | "whitespace" | "wspace" | "space" => some isBlank
  | plain => (categoriesNamed? plain).map fun kinds c => kinds (category c)

end CharSet

end PocketCalculator.Pattern
