import MetricGateway.Decimal.Shortest
import MetricGateway.Text.Basic

/-!
# How a decimal is written

A layout holds the decisions of one output format: up to which size a number is written
positionally, how its exponent looks otherwise, and which way ties go.
-/

namespace MetricGateway.Decimal

open Text (digitsOf padZeros)

/-- The decisions of one output format for numbers. -/
structure Layout where
  /-- The least exponent of the leading digit at which a number is written positionally. -/
  lowest : Int
  /-- The greatest such exponent. -/
  highest : Int
  /-- The least number of digits of an exponent. -/
  exponentWidth : Nat
  /-- Which of two equally near decimals is written. -/
  tie : Tie
  /-- Whether a whole number is written with a point and a zero. -/
  keepsPoint : Bool
  deriving DecidableEq, Repr

/-- The exponent of the leading digit. -/
def leadingExponent (d : Decimal) : Int := d.exponent + ((digitsOf d.digits).length : Int) - 1

/-- The number with every digit at its place around the point. -/
def positional (keepsPoint : Bool) (d : Decimal) : List Char :=
  let digits := digitsOf d.digits
  if 0 ≤ d.exponent then
    digits ++ List.replicate d.exponent.toNat '0' ++ (if keepsPoint then ['.', '0'] else [])
  else
    let places := (-d.exponent).toNat
    let padded := padZeros (places + 1) digits
    padded.take (padded.length - places) ++ '.' :: padded.drop (padded.length - places)

/-- The number as one leading digit, the others after a point, and a signed exponent. -/
def scientific (width : Nat) (d : Decimal) : List Char :=
  let mantissa :=
    match digitsOf d.digits with
    | first :: second :: rest => first :: '.' :: second :: rest
    | digits => digits
  let sign := if d.leadingExponent < 0 then '-' else '+'
  mantissa ++ 'e' :: sign :: padZeros width (digitsOf d.leadingExponent.natAbs)

/-- A decimal in the given layout. -/
def render (layout : Layout) (d : Decimal) : List Char :=
  if layout.lowest ≤ d.leadingExponent ∧ d.leadingExponent ≤ layout.highest then
    positional layout.keepsPoint d
  else scientific layout.exponentWidth d

/-- A finite number in the given layout: its sign, and the shortest decimal of its magnitude. -/
def renderFinite (layout : Layout) (negative : Bool) (mantissa : Nat) (exponent : Int) :
    List Char :=
  (if negative then ['-'] else []) ++
    (if mantissa = 0 then positional layout.keepsPoint ⟨0, 0⟩
     else render layout (shortest layout.tie mantissa exponent))

/-- A number in the given layout, not-a-number and the infinities by name. -/
def renderBinary (layout : Layout) (x : Binary64) : String :=
  match x.shape with
  | .nan => "NaN"
  | .infinite negative => if negative then "-inf" else "inf"
  | .finite negative mantissa exponent =>
    String.ofList (renderFinite layout negative mantissa exponent)

end MetricGateway.Decimal
