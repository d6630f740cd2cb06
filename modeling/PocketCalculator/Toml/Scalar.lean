import PocketCalculator.Decimal.Numeral
import PocketCalculator.Text.Hexadecimal
import PocketCalculator.Toml.Value

/-!
# TOML scalars

The values that are written as a single word: Booleans, integers in four bases, floats, dates and
times. Each form is a function on the characters of the word, and `Value.ofWord?` tries them in
turn. A word that has none of the forms is a mistake, as is an integer wider than 128 bits or a
float that is too large.
-/

namespace PocketCalculator.Toml

open Binary

/-! ## Digits -/

/-- The digits of a word in which single underscores may stand between digits. -/
def ungrouped? (isDigit : Char → Bool) : List Char → Option (List Char)
  | [] => none
  | [c] => if isDigit c then some [c] else none
  | c :: '_' :: word => if isDigit c then (c :: ·) <$> ungrouped? isDigit word else none
  | c :: word => if isDigit c then (c :: ·) <$> ungrouped? isDigit word else none

/-- The number that digits write in a base, if they are all digits of the base. -/
def inBase? (base : Nat) (digits : List Char) : Option Nat :=
  digits.foldlM (fun n c => do
    let digit ← Text.hexValue? c
    if digit < base then some (base * n + digit) else none) 0

/-- The sign of a word and what follows it. -/
def signed : List Char → Bool × List Char
  | '-' :: word => (true, word)
  | '+' :: word => (false, word)
  | word => (false, word)

/-! ## Numbers -/

/-- Decimal digits without a needless leading zero. -/
def wholeDigits? (word : List Char) : Option (List Char) := do
  let digits ← ungrouped? Char.isDigit word
  if digits.length > 1 ∧ digits.head? = some '0' then none else some digits

/-- An integer: with a sign in base ten, without one in the bases sixteen, eight and two. -/
def integer? (word : List Char) : Option Int := do
  match word with
  | '0' :: 'x' :: digits => return ← inBase? 16 (← ungrouped? (fun c => c != '_') digits)
  | '0' :: 'o' :: digits => return ← inBase? 8 (← ungrouped? (fun c => c != '_') digits)
  | '0' :: 'b' :: digits => return ← inBase? 2 (← ungrouped? (fun c => c != '_') digits)
  | _ =>
      let (negative, digits) := signed word
      let magnitude := digitsValue (← wholeDigits? digits)
      return if negative then -(magnitude : Int) else magnitude

/-- The exponent of a float, after its mark. -/
def exponent? (word : List Char) : Option Int := do
  let (negative, digits) := signed word
  let magnitude := digitsValue (← ungrouped? Char.isDigit digits)
  return if negative then -(magnitude : Int) else magnitude

/-- Whether a character marks an exponent. -/
def marksExponent (c : Char) : Bool := c == 'e' || c == 'E'

/-- An exponent brought near: beyond these bounds the float nearest to `digits * 10 ^ exponent` is
an infinity or zero, and stays so. -/
def nearExponent (digits : List Char) (exponent : Int) : Int :=
  let bound : Int := 400 + digits.length
  max (-bound) (min exponent bound)

/-- A float in digits: a whole part and a fraction, an exponent, or both. -/
def decimalFloat? (negative : Bool) (word : List Char) : Option Binary64 := do
  let mantissa := word.takeWhile fun c => !marksExponent c
  let exponent ← match word.dropWhile fun c => !marksExponent c with
    | [] => some none
    | _ :: mark => some <$> exponent? mark
  let whole ← wholeDigits? (mantissa.takeWhile (· != '.'))
  let fraction ← match mantissa.dropWhile (· != '.') with
    | [] => some none
    | _ :: digits => some <$> ungrouped? Char.isDigit digits
  if exponent.isNone ∧ fraction.isNone then none
  let digits := whole ++ fraction.getD []
  let power := nearExponent digits (exponent.getD 0 - (fraction.getD []).length)
  return Decimal.toNumber negative ⟨digitsValue digits, power⟩

/-- A float. -/
def float? (word : List Char) : Option Binary64 := do
  let (negative, digits) := signed word
  if digits = ['i', 'n', 'f'] then return .infinity negative
  if digits = ['n', 'a', 'n'] then return .nan
  let x ← decimalFloat? negative digits
  if x.isFinite then return x else none

/-! ## Dates and times -/

/-- A number of exactly `width` digits from `first` to `last`, and what follows it. -/
def field? (width first last : Nat) (word : List Char) : Option (Nat × List Char) :=
  let digits := word.take width
  if digits.length = width ∧ digits.all Char.isDigit then
    let value := digitsValue digits
    if first ≤ value ∧ value ≤ last then some (value, word.drop width) else none
  else
    none

/-- What follows a character that has to come first. -/
def after? (c : Char) : List Char → Option (List Char)
  | d :: word => if d = c then some word else none
  | [] => none

/-- The number of days of a month. -/
def daysIn (year month : Nat) : Nat :=
  if month = 2 then
    if year % 4 = 0 ∧ (year % 100 ≠ 0 ∨ year % 400 = 0) then 29 else 28
  else if month = 4 ∨ month = 6 ∨ month = 9 ∨ month = 11 then 30
  else 31

/-- A date, and what follows it. -/
def date? (word : List Char) : Option (List Char) := do
  let (year, word) ← field? 4 0 9999 word
  let (month, word) ← field? 2 1 12 (← after? '-' word)
  let (_, word) ← field? 2 1 (daysIn year month) (← after? '-' word)
  return word

/-- The seconds of a time, which may be missing and may have a fraction, and what follows them. -/
def seconds? (word : List Char) : Option (List Char) := do
  match word with
  | ':' :: word =>
      let (_, word) ← field? 2 0 60 word
      match word with
      | '.' :: word =>
          if (word.takeWhile Char.isDigit).isEmpty then none
          return word.dropWhile Char.isDigit
      | _ => return word
  | _ => return word

/-- A time of day, and what follows it. -/
def time? (word : List Char) : Option (List Char) := do
  let (_, word) ← field? 2 0 23 word
  let (_, word) ← field? 2 0 59 (← after? ':' word)
  seconds? word

/-- The offset of a date and time, which may be missing, up to the end of the word. -/
def isOffset : List Char → Bool
  | [] => true
  | ['Z'] | ['z'] => true
  | sign :: word =>
      (sign == '+' || sign == '-') &&
        (do
          let (_, word) ← field? 2 0 23 word
          let (_, word) ← field? 2 0 59 (← after? ':' word)
          return word.isEmpty).getD false

/-- Whether the character stands between a date and a time. -/
def isDateMark (c : Char) : Bool := c == 'T' || c == 't' || c == ' '

/-- Whether a word is a date, a time, or a date and a time. -/
def isMoment (word : List Char) : Bool :=
  match date? word with
  | some [] => true
  | some (mark :: rest) => isDateMark mark && (time? rest).any isOffset
  | none => time? word == some []

/-! ## Words -/

/-- The value that a word writes. -/
def Value.ofWord? (word : List Char) : Option Value :=
  if word = ['t', 'r', 'u', 'e'] then some (.boolean true)
  else if word = ['f', 'a', 'l', 's', 'e'] then some (.boolean false)
  else if isMoment word then some .moment
  else
    match integer? word with
    | some i => if FitsWord 128 i then some (.integer i) else none
    | none => Value.float <$> float? word

end PocketCalculator.Toml
