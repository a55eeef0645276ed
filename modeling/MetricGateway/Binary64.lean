/-!
# Binary64 numbers

The 64-bit floating-point numbers of measured values and timestamps, kept as their bits so that
equality is equality of representations. Every operation here is exact arithmetic on natural
numbers followed by one rounding to nearest, ties to even. A power whose exponent may be negative
is a fraction: of its numerator and its denominator one is the power with the exponent's size, and
the other is one.
-/

namespace MetricGateway.Power

/-- The numerator of `base ^ exponent`. -/
def num (base : Nat) (exponent : Int) : Nat := base.pow exponent.toNat

/-- The denominator of `base ^ exponent`. -/
def den (base : Nat) (exponent : Int) : Nat := base.pow (-exponent).toNat

end MetricGateway.Power

namespace MetricGateway

/-- A binary64 number, given by its bits: a sign, eleven bits of exponent, 52 bits of fraction. -/
structure Binary64 where
  /-- The bits, sign first. -/
  bits : UInt64
  deriving DecidableEq, Repr, Inhabited

namespace Binary64

/-- What the bits of a number stand for. -/
inductive Shape where
  /-- No number. -/
  | nan
  /-- An infinity. -/
  | infinite (negative : Bool)
  /-- The number `mantissa * 2 ^ exponent`, or its negative. -/
  | finite (negative : Bool) (mantissa : Nat) (exponent : Int)
  deriving DecidableEq, Repr

/-- The bits of positive infinity: every exponent bit is set, and no other. -/
def infinityBits : Nat := 0x7FF0000000000000

/-- The sign bit. -/
def signBit : Nat := 0x8000000000000000

/-- The leading bit of a mantissa, which the fraction leaves out. -/
def leadingBit : Nat := 0x10000000000000

/-- The number whose magnitude has the given bits. -/
def ofMagnitude (negative : Bool) (magnitude : Nat) : Binary64 :=
  ⟨UInt64.ofNat (if negative then signBit + magnitude else magnitude)⟩

/-- Positive zero. -/
def zero : Binary64 := ofMagnitude false 0

/-- The bits of a number without its sign. -/
def magnitude (x : Binary64) : Nat := x.bits.toNat % signBit

/-- Whether the sign bit is set. -/
def isNegative (x : Binary64) : Bool := signBit ≤ x.bits.toNat

/-- Whether the bits stand for no number. -/
def isNaN (x : Binary64) : Bool := infinityBits < x.magnitude

/-- What the bits stand for. A zero exponent field marks the numbers below `2 ^ -1022`, which
have no leading bit. -/
def shape (x : Binary64) : Shape :=
  let field : Nat := x.magnitude / leadingBit
  let fraction : Nat := x.magnitude % leadingBit
  if field = 2047 then
    if fraction = 0 then .infinite x.isNegative else .nan
  else if field = 0 then .finite x.isNegative fraction (-1074)
  else .finite x.isNegative (leadingBit + fraction) ((field : Int) - 1075)

/-- The quotient rounded to the nearest natural number, a tie to the even neighbour. -/
def divideToEven (num den : Nat) : Nat :=
  let low := num / den
  match compare (2 * (num % den)) den with
  | .lt => low
  | .gt => low + 1
  | .eq => if low % 2 = 0 then low else low + 1

/-- The quotient rounded to the nearest natural number, a tie upwards. -/
def divideToUpper (num den : Nat) : Nat := (2 * num + den) / (2 * den)

/-- The magnitude nearest to `num / den`. With `2 ^ exponent` the weight of the last bit of the
result, consecutive magnitudes are consecutive numbers, so the rounded mantissa only has to be
added to the first magnitude of its exponent. Quotients beyond the largest number give infinity. -/
def nearestMagnitude (num den : Nat) : Nat :=
  if num = 0 then 0
  else
    let guess : Int := (num.log2 : Int) - den.log2
    let top := if den * Power.num 2 guess ≤ num * Power.den 2 guess then guess else guess - 1
    let exponent := max (top - 52) (-1074)
    let mantissa := divideToEven (num * Power.den 2 exponent) (den * Power.num 2 exponent)
    min ((exponent + 1074).toNat * leadingBit + mantissa) infinityBits

/-- The number nearest to `digits * 10 ^ exponent`. Exponents far outside the range of the format
are answered without computing the power. -/
def ofDecimal (negative : Bool) (digits : Nat) (exponent : Int) : Binary64 :=
  if digits = 0 then ofMagnitude negative 0
  else if 400 < exponent then ofMagnitude negative infinityBits
  else if (digits.log2 : Int) + 1100 < 3 * -exponent then ofMagnitude negative 0
  else ofMagnitude negative
    (nearestMagnitude (digits * Power.num 10 exponent) (Power.den 10 exponent))

/-- The number nearest to an integer. -/
def ofInt (n : Int) : Binary64 := ofDecimal (n < 0) n.natAbs 0

/-- The number nearest to the product of a number and a natural factor. -/
def scale (x : Binary64) (factor : Nat) : Binary64 :=
  match x.shape with
  | .finite negative mantissa exponent =>
    ofMagnitude negative
      (nearestMagnitude (mantissa * factor * Power.num 2 exponent) (Power.den 2 exponent))
  | _ => x

/-- The number nearest to the product of two finite numbers. -/
def times (x y : Binary64) : Binary64 :=
  match x.shape, y.shape with
  | .finite negative mantissa exponent, .finite negative' mantissa' exponent' =>
    ofMagnitude (negative != negative')
      (nearestMagnitude (mantissa * mantissa' * Power.num 2 (exponent + exponent'))
        (Power.den 2 (exponent + exponent')))
  | _, _ => x

/-- The number nearest to the quotient of two finite numbers, of which the second one is not
zero. -/
def dividedBy (x y : Binary64) : Binary64 :=
  match x.shape, y.shape with
  | .finite negative mantissa exponent, .finite negative' mantissa' exponent' =>
    ofMagnitude (negative != negative')
      (nearestMagnitude (mantissa * Power.num 2 (exponent - exponent'))
        (mantissa' * Power.den 2 (exponent - exponent')))
  | _, _ => x

/-- The largest 64-bit natural number. -/
def maxWord : Nat := 0xFFFFFFFFFFFFFFFF

/-- The number rounded to a natural number of 64 bits: halves go up, what is too large gives the
largest such number, and what is negative or no number gives zero. -/
def toWord (x : Binary64) : Nat :=
  match x.shape with
  | .nan => 0
  | .infinite negative => if negative then 0 else maxWord
  | .finite negative mantissa exponent =>
    if negative then 0
    else min (divideToUpper (mantissa * Power.num 2 exponent) (Power.den 2 exponent)) maxWord

end Binary64

end MetricGateway
