import PocketCalculator.Binary.Format

/-!
# Floating-point numbers

The numbers of a binary format and their arithmetic. A finite number is a sign and a magnitude that
the format holds; zero has both signs. Each operation takes the exact result, a quotient of whole
numbers of steps, and rounds it once: to nearest, ties to even, and to an infinity from
`Format.limit` upwards. The main objects:

* `Number`, with `Binary64` and `Binary32`: one NaN, two infinities, and the finite numbers;
* `Number.ofRatio`: the number nearest to an exact quotient;
* the operations `+`, `-`, `*`, `/` and negation, and the comparison `==`, for which NaN differs
  from itself and the two zeros are equal;
* `Number.toWhole`: the nearest whole number, a half going away from zero;
* `Number.pow`: a power by repeated squaring, each product rounded;
* `Number.convert`: the same number in another format.
-/

namespace PocketCalculator.Binary

/-- A number of the format `f`. -/
inductive Number (f : Format) where
  /-- Not a number. -/
  | nan
  /-- An infinity. -/
  | infinity (negative : Bool)
  /-- A finite number, its magnitude counted in steps. -/
  | finite (negative : Bool) (steps : Nat) (holds : f.Holds steps)

/-- Numbers in double precision. -/
abbrev Binary64 := Number .binary64

/-- Numbers in single precision. -/
abbrev Binary32 := Number .binary32

namespace Number

variable {f g : Format}

/-! ## Rounding into the format -/

/-- The number nearest to `num / den` steps: a finite number, or an infinity when the rounded
magnitude is beyond the format. -/
def ofSteps (negative : Bool) (num den : Nat) : Number f :=
  if h : f.toGrid num den < f.limit then
    .finite negative (f.toGrid num den) ⟨f.aligned_toGrid num den, h⟩
  else
    .infinity negative

/-- The number nearest to `num / den`. -/
def ofRatio (negative : Bool) (num den : Nat) : Number f :=
  ofSteps negative (num * f.one) den

/-- The number nearest to a whole number. -/
def ofNat (n : Nat) : Number f := ofRatio false n 1

/-- The number nearest to an integer; zero is positive. -/
def ofInt (i : Int) : Number f := ofRatio (i < 0) i.natAbs 1

instance (n : Nat) : OfNat (Number f) n := ⟨ofNat n⟩

/-- One half. -/
def half : Number f := ofRatio false 1 2

/-! ## Classes -/

/-- Neither NaN nor an infinity. -/
def isFinite : Number f → Bool
  | .finite _ _ _ => true
  | _ => false

/-- Equality of numbers: NaN differs from everything, and the zeros are equal. -/
instance : BEq (Number f) where
  beq
    | .infinity s, .infinity t => s == t
    | .finite s m _, .finite t n _ => m == n && (s == t || m == 0)
    | _, _ => false

/-! ## Arithmetic -/

/-- The number with the other sign. -/
def neg : Number f → Number f
  | .nan => .nan
  | .infinity s => .infinity !s
  | .finite s m h => .finite (!s) m h

/-- A magnitude with its sign, as a signed number of steps. -/
def signed (negative : Bool) (steps : Nat) : Int :=
  if negative then -(steps : Int) else steps

/-- The sum. An exact sum of zero is negative only if both terms are negative zeros. -/
def add : Number f → Number f → Number f
  | .nan, _ => .nan
  | _, .nan => .nan
  | .infinity s, .infinity t => if s == t then .infinity s else .nan
  | .infinity s, .finite _ _ _ => .infinity s
  | .finite _ _ _, .infinity t => .infinity t
  | .finite s m _, .finite t n _ =>
      let sum := signed s m + signed t n
      if sum = 0 then ofSteps (s && t) 0 1 else ofSteps (sum < 0) sum.natAbs 1

/-- The product. Zero times an infinity is not a number. -/
def mul : Number f → Number f → Number f
  | .nan, _ => .nan
  | _, .nan => .nan
  | .infinity s, .infinity t => .infinity (s ^^ t)
  | .infinity s, .finite t n _ => if n = 0 then .nan else .infinity (s ^^ t)
  | .finite s m _, .infinity t => if m = 0 then .nan else .infinity (s ^^ t)
  | .finite s m _, .finite t n _ => ofSteps (s ^^ t) (m * n) f.one

/-- The quotient. A nonzero number over zero is an infinity, zero over zero is not a number. -/
def div : Number f → Number f → Number f
  | .nan, _ => .nan
  | _, .nan => .nan
  | .infinity _, .infinity _ => .nan
  | .infinity s, .finite t _ _ => .infinity (s ^^ t)
  | .finite s _ _, .infinity t => ofSteps (s ^^ t) 0 1
  | .finite s m _, .finite t n _ =>
      if n = 0 then
        if m = 0 then .nan else .infinity (s ^^ t)
      else
        ofSteps (s ^^ t) (m * f.one) n

instance : Neg (Number f) := ⟨neg⟩
instance : Add (Number f) := ⟨add⟩
instance : Sub (Number f) := ⟨fun x y => x + -y⟩
instance : Mul (Number f) := ⟨mul⟩
instance : Div (Number f) := ⟨div⟩

/-- The nearest whole number, a half going away from zero; the sign stays, also on zero. -/
def toWhole : Number f → Number f
  | .finite s m _ => ofRatio s ((2 * m + f.one) / (2 * f.one)) 1
  | x => x

/-- The power `base ^ n` by repeated squaring, from the lowest bit of `n` upwards. -/
def pow (base : Number f) (n : Nat) : Number f :=
  ((List.range (n.log2 + 1)).foldl
    (fun (product, square) i =>
      (if n.testBit i then product * square else product, square * square))
    (1, base)).1

/-! ## Other formats -/

/-- The nearest number of the format `g`. -/
def convert (g : Format) : Number f → Number g
  | .nan => .nan
  | .infinity s => .infinity s
  | .finite s m _ => ofRatio s m f.one

end Number

end PocketCalculator.Binary
