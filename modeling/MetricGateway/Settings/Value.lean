import MetricGateway.Decimal.Layout
import MetricGateway.Text.Basic

/-!
# Values of settings

Settings come from files, where they have types, and from the environment, where they are texts.
What is wanted as a number may be given as a text, and the other way round.
-/

namespace MetricGateway

/-- A value of a setting. -/
inductive Setting where
  | text (value : String)
  | integer (value : Int)
  | float (value : Binary64)
  | boolean (value : Bool)
  | list (values : List Setting)
  /-- Values under keys. -/
  | table (entries : List (String × Setting))
  deriving Repr

namespace Setting

/-- Numbers are written with all their digits and without an exponent. A tie goes up. -/
def floatLayout : Decimal.Layout where
  lowest := -400
  highest := 400
  exponentWidth := 1
  tie := .upwards
  keepsPoint := false

/-- The natural number of 64 bits that a text gives. -/
def wordOfDigits (text : List Char) : Option Nat :=
  let digits := if text.head? = some '+' then text.drop 1 else text
  if digits = [] || !digits.all Char.isDigit then none
  else if Text.valueOf digits ≤ Binary64.maxWord then some (Text.valueOf digits)
  else none

/-- The natural number of 64 bits that a text stands for. Words for yes and no count as one and
zero. -/
def wordOfText (text : String) : Option Nat :=
  let lower := Text.lowerCase text
  if ["true", "on", "yes"].contains lower then some 1
  else if ["false", "off", "no"].contains lower then some 0
  else wordOfDigits text.toList

/-- The natural number of 64 bits that a value stands for. -/
def word? : Setting → Option Nat
  | text value => wordOfText value
  | integer value => if value < 0 then none else some value.toNat
  | float value => some value.toWord
  | boolean value => some (if value then 1 else 0)
  | list _ => none
  | table _ => none

/-- The text that a value stands for. -/
def text? : Setting → Option String
  | text value => some value
  | integer value => some (toString value)
  | float value => some (Decimal.renderBinary floatLayout value)
  | boolean value => some (toString value)
  | list _ => none
  | table _ => none

/-- The entries of a table, none of any other value. -/
def entries : Setting → List (String × Setting)
  | table entries => entries
  | _ => []

end Setting

end MetricGateway
