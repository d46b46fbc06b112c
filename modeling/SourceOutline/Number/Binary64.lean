set_option autoImplicit false

/-! # Binary floating-point numbers of 64 bits

A finite number is a sign, a mantissa below `2 ^ 53` and a power of two; there are also two
infinities and one value that is no number. Decimals and sums are rounded to the nearest number, a
tie to the even mantissa. What is rounded is computed exactly, on integers. -/

namespace SourceOutline

/-- A floating-point number: `mantissa * 2 ^ exponent` with a sign, an infinity, or no number. -/
inductive Binary64 where
  | finite (negative : Bool) (mantissa : Nat) (exponent : Int)
  | infinite (negative : Bool)
  | nan
deriving Repr, DecidableEq

/-! ## Rounding -/

/-- The quotient of two numbers rounded to the nearest integer, a tie to the even one. -/
def divideToEven (numerator denominator : Nat) : Nat :=
  let floor := numerator / denominator
  let twice := 2 * (numerator % denominator)
  if twice < denominator then floor
  else if denominator < twice then floor + 1
  else floor + floor % 2

/-- `n * base ^ k` as a fraction, for an integer `k`. -/
def scaledFraction (base n : Nat) : Int → Nat × Nat
  | .ofNat k => (n * Nat.pow base k, 1)
  | .negSucc k => (n, Nat.pow base (k + 1))

namespace Binary64

/-- The exponent of the smallest step between two numbers. -/
def leastExponent : Int := -1074

/-- The exponent beyond which numbers are infinite. -/
def greatestExponent : Int := 971

/-- The fraction `numerator / denominator / 2 ^ exponent` as a fraction. -/
def fractionAt (numerator denominator : Nat) : Int → Nat × Nat
  | .ofNat k => (numerator, denominator * Nat.pow 2 k)
  | .negSucc k => (numerator * Nat.pow 2 (k + 1), denominator)

/-- The power of two that leaves a positive fraction a mantissa of 53 bits, or the least one. -/
def exponentFor (numerator denominator : Nat) : Int :=
  let guess : Int := (numerator.log2 : Int) - denominator.log2 - 52
  let (n, d) := fractionAt numerator denominator guess
  max leastExponent (if n / d < Nat.pow 2 52 then guess - 1 else guess)

/-- The number nearest to a fraction. -/
def ofFraction (negative : Bool) (numerator denominator : Nat) : Binary64 :=
  if numerator = 0 then finite negative 0 leastExponent
  else
    let exponent := exponentFor numerator denominator
    let (n, d) := fractionAt numerator denominator exponent
    let mantissa := divideToEven n d
    let (mantissa, exponent) :=
      if mantissa = Nat.pow 2 53 then (Nat.pow 2 52, exponent + 1) else (mantissa, exponent)
    if greatestExponent < exponent then infinite negative else finite negative mantissa exponent

/-- The number nearest to `digits * 10 ^ exponent`. Beyond a thousandfold margin around the finite
    numbers the answer is known without the power of ten. -/
def ofDecimal (negative : Bool) (digits : Nat) (exponent : Int) : Binary64 :=
  let size : Int := (toString digits).length + exponent
  if digits = 0 || size < -1000 then finite negative 0 leastExponent
  else if 1000 < size then infinite negative
  else
    let (n, d) := scaledFraction 10 digits exponent
    ofFraction negative n d

/-- The number nearest to an integer. -/
def ofInt (n : Int) : Binary64 :=
  ofFraction (decide (n < 0)) n.natAbs 1

/-! ## Sums -/

/-- A signed mantissa as a multiple of `2 ^ least`, where `least` is at most its own exponent. -/
def multipleOf (least : Int) (negative : Bool) (mantissa : Nat) (exponent : Int) : Int :=
  let n : Int := mantissa * Nat.pow 2 (exponent - least).toNat
  if negative then -n else n

/-- The sum of two numbers. Infinities of both signs have none, and the sum of two zeros is negative
    only if both are. -/
def add : Binary64 → Binary64 → Binary64
  | finite s m e, finite t n f =>
    let least := min e f
    let sum := multipleOf least s m e + multipleOf least t n f
    let (numerator, denominator) := scaledFraction 2 sum.natAbs least
    ofFraction (if sum = 0 then s && t else decide (sum < 0)) numerator denominator
  | nan, _ | _, nan => nan
  | infinite s, infinite t => if s = t then infinite s else nan
  | infinite s, _ | _, infinite s => infinite s

instance : Add Binary64 := ⟨add⟩

/-- A number with the other sign. -/
def neg : Binary64 → Binary64
  | finite negative mantissa exponent => finite (!negative) mantissa exponent
  | infinite negative => infinite (!negative)
  | nan => nan

instance : Sub Binary64 := ⟨fun x y => x + y.neg⟩

/-! ## Comparison -/

/-- Whether a number is at most another; what is no number compares with nothing. -/
def atMost : Binary64 → Binary64 → Bool
  | finite s m e, finite t n f =>
    let least := min e f
    decide (multipleOf least s m e ≤ multipleOf least t n f)
  | nan, _ | _, nan => false
  | infinite negative, infinite negative' => negative || !negative'
  | infinite negative, finite _ _ _ => negative
  | finite _ _ _, infinite negative => !negative

instance : LE Binary64 := ⟨fun x y => x.atMost y = true⟩

instance : DecidableLE Binary64 := fun x y => inferInstanceAs (Decidable (x.atMost y = true))

/-- Whether a number is below another. -/
def isLess (x y : Binary64) : Bool :=
  x.atMost y && !y.atMost x

/-- Whether a number is below an integer; what is no number is below nothing. -/
def isBelow (x : Binary64) (bound : Int) : Bool :=
  match x with
  | finite negative mantissa exponent =>
    let (n, d) := scaledFraction 2 mantissa exponent
    let signed : Int := if negative then -n else n
    decide (signed < bound * d)
  | infinite negative => negative
  | nan => false

/-- Whether a number is above an integer; what is no number is above nothing. -/
def isAbove (x : Binary64) (bound : Int) : Bool :=
  match x with
  | finite negative mantissa exponent =>
    let (n, d) := scaledFraction 2 mantissa exponent
    let signed : Int := if negative then -n else n
    decide (bound * d < signed)
  | infinite negative => !negative
  | nan => false

/-- Whether a number has the value of an integer. -/
def hasValue (x : Binary64) (n : Int) : Bool :=
  match x with
  | nan => false
  | _ => !x.isBelow n && !x.isAbove n

/-- Whether two numbers have the same value: the zeros do, and what is no number never does. -/
def sameValue : Binary64 → Binary64 → Bool
  | finite _ 0 _, finite _ 0 _ => true
  | nan, _ => false
  | x, y => x == y

end Binary64

end SourceOutline
