import MetricGateway.Json.Value
import MetricGateway.Decimal.Layout

/-!
# Writing JSON

The compact text of a value: no blanks, entries in their order, and only those characters escaped
that may not stand in a JSON text.
-/

namespace MetricGateway.Json

/-- The layout of fractions: positional from `10 ^ -5` up to but not including `10 ^ 16`. -/
def fractionLayout : Decimal.Layout where
  lowest := -5
  highest := 15
  exponentWidth := 1
  tie := .toEven
  keepsPoint := true

/-- The text of a fraction. There is no JSON number for infinity or not-a-number. -/
def renderFraction (x : Binary64) : List Char :=
  match x.shape with
  | .finite negative mantissa exponent =>
    Decimal.renderFinite fractionLayout negative mantissa exponent
  | _ => "null".toList

/-- The text of an integer. -/
def renderInt (n : Int) : List Char :=
  if n < 0 then '-' :: Text.digitsOf n.natAbs else Text.digitsOf n.natAbs

/-- The text of a number. -/
def Number.render : Number → List Char
  | integer n => renderInt n
  | float x => renderFraction x

/-- A character inside a text: the quote, the backslash and controls are escaped. -/
def escapeChar (c : Char) : List Char :=
  if c = '\"' then ['\\', '\"']
  else if c = '\\' then ['\\', '\\']
  else if c = '\x08' then ['\\', 'b']
  else if c = '\t' then ['\\', 't']
  else if c = '\n' then ['\\', 'n']
  else if c = '\x0c' then ['\\', 'f']
  else if c = '\r' then ['\\', 'r']
  else if c.toNat < 32 then
    ['\\', 'u', '0', '0', Text.lowerHexDigit (c.toNat / 16), Text.lowerHexDigit (c.toNat % 16)]
  else [c]

/-- A text between quotes. -/
def renderText (s : String) : List Char :=
  '\"' :: (s.toList.flatMap escapeChar ++ ['\"'])

mutual

/-- The compact text of a value, as characters. -/
def render : Json → List Char
  | null => "null".toList
  | boolean b => (if b then "true" else "false").toList
  | number n => n.render
  | string s => renderText s
  | array items => '[' :: (renderItems items ++ [']'])
  | object entries => '\x7b' :: (renderEntries entries ++ ['\x7d'])

/-- The items of a list with commas between them. -/
def renderItems : List Json → List Char
  | [] => []
  | [item] => render item
  | item :: next :: rest => render item ++ ',' :: renderItems (next :: rest)

/-- The entries of an object with commas between them. -/
def renderEntries : List (String × Json) → List Char
  | [] => []
  | [(key, value)] => renderText key ++ ':' :: render value
  | (key, value) :: next :: rest =>
    renderText key ++ ':' :: (render value ++ ',' :: renderEntries (next :: rest))

end

/-- The compact text of a value. -/
def print (value : Json) : String := String.ofList value.render

/-- The text of a value where a plain text is wanted: a text stands for itself, any other value
for its JSON text. -/
def plainText : Json → String
  | string s => s
  | other => other.print

end MetricGateway.Json
