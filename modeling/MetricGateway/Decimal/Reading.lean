import MetricGateway.Binary64
import MetricGateway.Text.Basic

/-!
# Reading a number from text

The texts accepted as a number: an optional sign, then a name of infinity or not-a-number in any
letter case, or decimal digits with at most one point and an optional exponent.
-/

namespace MetricGateway.Decimal

open Text (splitDigits valueOf)

/-- Why a text is not a number. -/
inductive ReadingFault where
  /-- There is no text. -/
  | empty
  /-- The text is none of the accepted forms. -/
  | invalid
  deriving DecidableEq, Repr

/-- The wording of a reading fault. -/
def ReadingFault.message : ReadingFault → String
  | .empty => "cannot parse float from empty string"
  | .invalid => "invalid float literal"

/-- The text without its sign, and whether the sign is a minus. -/
def splitSign : List Char → Bool × List Char
  | '-' :: rest => (true, rest)
  | '+' :: rest => (false, rest)
  | text => (false, text)

/-- The exponent at the end of a number: nothing, or a mark, an optional sign and digits. -/
def readExponent : List Char → Option Int
  | [] => some 0
  | mark :: rest =>
    if mark = 'e' ∨ mark = 'E' then
      let (negative, digits) := splitSign rest
      if digits ≠ [] ∧ digits.all Char.isDigit then
        some (if negative then -(valueOf digits : Int) else valueOf digits)
      else none
    else none

/-- The digits after the point, if there is a point, and what follows them. -/
def splitFraction : List Char → List Char × List Char
  | '.' :: rest => splitDigits rest
  | text => ([], text)

/-- An unsigned decimal: digits, a point and more digits, an exponent. One digit is needed. -/
def readDigits (negative : Bool) (text : List Char) : Option Binary64 :=
  let (whole, afterWhole) := splitDigits text
  let (fraction, tail) := splitFraction afterWhole
  if whole = [] ∧ fraction = [] then none
  else (readExponent tail).map fun exponent =>
    Binary64.ofDecimal negative (valueOf (whole ++ fraction)) (exponent - fraction.length)

/-- Not-a-number, with the first bit of its fraction set. -/
def notANumber (negative : Bool) : Binary64 :=
  Binary64.ofMagnitude negative 0x7FF8000000000000

/-- An unsigned number: a name or a decimal. -/
def readMagnitude (negative : Bool) (text : List Char) : Option Binary64 :=
  let name := String.ofList (text.map Char.toLower)
  if name = "inf" ∨ name = "infinity" then
    some (Binary64.ofMagnitude negative Binary64.infinityBits)
  else if name = "nan" then some (notANumber negative)
  else readDigits negative text

/-- The number that a text stands for. -/
def readNumber (text : String) : Except ReadingFault Binary64 :=
  if text.toList = [] then .error .empty
  else
    let (negative, unsigned) := splitSign text.toList
    match readMagnitude negative unsigned with
    | some x => .ok x
    | none => .error .invalid

end MetricGateway.Decimal
