import SourceOutline.Number.Binary64

set_option autoImplicit false

/-! # The shortest decimal of a floating-point number

A number is written with the fewest decimal digits that still read back as the number. For a given
count of digits only the two neighbours of the number on that decimal grid can read back; of two
that do, the nearer is taken, and of two equally near ones the even one. -/

namespace SourceOutline

/-- The decimal `digits * 10 ^ exponent`. -/
structure Decimal where
  digits : Nat
  exponent : Int
deriving Repr, DecidableEq

/-- The quotient of a fraction by `10 ^ exponent`, as a fraction. -/
def fractionOnGrid (numerator denominator : Nat) : Int → Nat × Nat
  | .ofNat k => (numerator, denominator * Nat.pow 10 k)
  | .negSucc k => (numerator * Nat.pow 10 (k + 1), denominator)

/-- The neighbours of a fraction on a decimal grid, the nearer one first. -/
def gridNeighbours (numerator denominator : Nat) (exponent : Int) : List Decimal :=
  let (n, d) := fractionOnGrid numerator denominator exponent
  let below : Decimal := ⟨n / d, exponent⟩
  let above : Decimal := ⟨n / d + 1, exponent⟩
  let nearest := divideToEven n d
  if nearest = n / d then [below, above] else [above, below]

/-- The first decimal that reads back, on grids from `exponent` down. -/
def firstReadingBack (x : Binary64) (numerator denominator : Nat) :
    Nat → Int → Option Decimal
  | 0, _ => none
  | count + 1, exponent =>
    let candidates := gridNeighbours numerator denominator exponent
    match candidates.find? fun c => Binary64.ofDecimal false c.digits c.exponent == x with
    | some decimal => some decimal
    | none => firstReadingBack x numerator denominator count (exponent - 1)

/-- The power of ten just above a fraction: the least `k` found from a guess that is at most one too
    low. -/
def decimalMagnitude (numerator denominator : Nat) : Int :=
  let whole := numerator / denominator
  if 0 < whole then (toString whole).length
  else
    let inverse := denominator / numerator
    let guess : Int := 1 - (toString inverse).length
    let (n, d) := fractionOnGrid numerator denominator guess
    if n < d then guess else guess + 1

/-- The shortest decimal that reads back as the number `mantissa * 2 ^ exponent`. -/
def shortestDecimal (mantissa : Nat) (exponent : Int) : Decimal :=
  if mantissa = 0 then ⟨0, 0⟩
  else
    let (n, d) := scaledFraction 2 mantissa exponent
    (firstReadingBack (.finite false mantissa exponent) n d 17 (decimalMagnitude n d - 1)).getD
      ⟨0, 0⟩

/-- Drop the zeros that a decimal ends in. -/
def Decimal.trimmed : Nat → Decimal → Decimal
  | 0, d => d
  | fuel + 1, d =>
    if d.digits ≠ 0 ∧ d.digits % 10 = 0 then trimmed fuel ⟨d.digits / 10, d.exponent + 1⟩ else d

/-! ## Layout -/

/-- An exponent with its sign and at least two digits. -/
def exponentText (e : Int) : List Char :=
  let digits := (toString e.natAbs).toList
  (if e < 0 then '-' else '+') :: (if digits.length < 2 then '0' :: digits else digits)

/-- Digits with a point after the first `point` of them; positional between one ten-thousandth and
    ten to the sixteenth, and otherwise with an exponent. A positional number has a digit on both
    sides of its point. -/
def layoutDigits (digits : List Char) (point : Int) : List Char :=
  if -4 < point && point ≤ 16 then
    if point ≤ 0 then '0' :: '.' :: List.replicate (-point).toNat '0' ++ digits
    else
      let before := digits.take point.toNat
      let padding := List.replicate (point.toNat - before.length) '0'
      let after := digits.drop point.toNat
      before ++ padding ++ '.' :: (if after.isEmpty then ['0'] else after)
  else
    let after := digits.drop 1
    digits.take 1 ++ (if after.isEmpty then [] else '.' :: after)
      ++ 'e' :: exponentText (point - 1)

/-- The text of a number. -/
def Binary64.render : Binary64 → String
  | .finite negative mantissa exponent =>
    let d := (shortestDecimal mantissa exponent).trimmed 400
    let digits := (toString d.digits).toList
    let text :=
      if d.digits = 0 then "0.0".toList else layoutDigits digits (digits.length + d.exponent)
    String.ofList (if negative then '-' :: text else text)
  | .infinite negative => if negative then "-inf" else "inf"
  | .nan => "nan"

end SourceOutline
