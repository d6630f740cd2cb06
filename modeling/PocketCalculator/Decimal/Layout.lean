import PocketCalculator.Decimal.Shortest

/-!
# Written numbers

How a floating-point number is written, given its shortest decimal. Numbers are written for four
readers: the screen, running text, a record of settings, and a message about a mistyped setting.
They share the digits and differ in a few decisions, which are the fields of `Layout`.
-/

namespace PocketCalculator

open Binary

/-! ## The decisions of a layout -/

/-- The decisions left open by the digits of a number. -/
structure Layout where
  /-- The text of an infinity, without its sign. -/
  infinity : String
  /-- Whether a zero shows its sign. -/
  zeroSigned : Bool
  /-- Whether a whole number ends in `.0`. -/
  pointed : Bool
  /-- The powers of ten of the leading digit for which the number is written out in full, from the
  first to the last; all of them if absent. The others are written with an exponent. -/
  fullRange : Option (Int × Int)
  /-- Whether an exponent that is not negative has a plus sign. -/
  plusSigned : Bool

namespace Layout

/-- The screen: written out from `0.000001` up to 21 digits, zero without a sign. -/
def screen : Layout := ⟨"Infinity", false, false, some (-6, 20), true⟩

/-- Running text: always written out. -/
def plain : Layout := ⟨"inf", true, false, none, false⟩

/-- A record of settings: written out from `0.0001` up to 16 digits, always with a point. -/
def detailed : Layout := ⟨"inf", true, true, some (-4, 15), false⟩

/-- A message: written out, always with a point. -/
def message : Layout := ⟨"inf", true, true, none, false⟩

/-! ## Writing -/

/-- The digits written out in full, the point standing after the first `point` of them. -/
def full (pointed : Bool) (digits : List Char) (point : Int) : List Char :=
  if point ≤ 0 then
    '0' :: '.' :: (List.replicate (-point).toNat '0' ++ digits)
  else if digits.length ≤ point.toNat then
    digits ++ List.replicate (point.toNat - digits.length) '0'
      ++ (if pointed then ['.', '0'] else [])
  else
    digits.take point.toNat ++ '.' :: digits.drop point.toNat

/-- The digits with an exponent: one digit before the point, and no point if it is the only one. -/
def withExponent (plusSigned : Bool) (digits : List Char) (power : Int) : List Char :=
  let mantissa :=
    match digits with
    | lead :: more@(_ :: _) => lead :: '.' :: more
    | _ => digits
  let sign := if power < 0 then ['-'] else if plusSigned then ['+'] else []
  mantissa ++ 'e' :: (sign ++ decimalDigits power.natAbs)

variable (l : Layout)

/-- A decimal other than zero. -/
def decimal (d : Decimal) : List Char :=
  let power := d.point - 1
  match l.fullRange with
  | none => full l.pointed d.significant d.point
  | some (first, last) =>
      if first ≤ power ∧ power ≤ last then
        full l.pointed d.significant d.point
      else
        withExponent l.plusSigned d.significant power

/-- A magnitude. -/
def magnitude (f : Format) (steps : Nat) : List Char :=
  if steps = 0 then
    if l.pointed then ['0', '.', '0'] else ['0']
  else
    l.decimal (Decimal.shortest f steps)

/-- The characters of a number. -/
def chars {f : Format} : Number f → List Char
  | .nan => ['N', 'a', 'N']
  | .infinity s => (if s then ['-'] else []) ++ l.infinity.toList
  | .finite s m _ =>
      (if s ∧ (m ≠ 0 ∨ l.zeroSigned) then ['-'] else []) ++ l.magnitude f m

/-- A number as a text. -/
def text {f : Format} (x : Number f) : String := String.ofList (l.chars x)

end Layout

end PocketCalculator
