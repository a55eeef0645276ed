import MetricGateway.Json.Record
import MetricGateway.Text.Basic
import MetricGateway.Text.Members

/-!
# Values of conditions

A condition compares a label with one text or with a set of texts. The value says how it was
given: as a text, a truth value, a number or a set.
-/

namespace MetricGateway

/-- What a label is compared with. -/
inductive Condition.Value where
  /-- A text. -/
  | text (s : String)
  /-- A truth value. -/
  | boolean (b : Bool)
  /-- A number, kept as its text: labels are texts, so `2` and `2.0` are different values. -/
  | double (numeral : String)
  /-- Any text of a set. -/
  | inSet (members : Text.Members)
  deriving DecidableEq

namespace Condition.Value

/-- The text of a truth value. -/
def booleanText (b : Bool) : String := if b then "true" else "false"

/-- The layout of fractions in labels: positional from `10 ^ -4` up to but not including
`10 ^ 16`, and exponents of at least two digits. -/
def fractionLayout : Decimal.Layout where
  lowest := -4
  highest := 15
  exponentWidth := 2
  tie := .upwards
  keepsPoint := true

/-- The text of a fraction in a label. -/
def fractionText (x : Binary64) : String := Decimal.renderBinary fractionLayout x

/-- The value for a fraction. -/
def ofBinary (x : Binary64) : Value := double (fractionText x)

/-- The value for any of the given texts. -/
def ofTexts (texts : List String) : Value := inSet (Text.Members.ofList texts)

/-- The characters with a meaning of their own in a pattern. -/
def isPatternMark (c : Char) : Bool :=
  c = '*' || c = '+' || c = '?' || c = '(' || c = ')' || c = '|'

/-- A text with its pattern marks escaped. The pattern stands inside a quoted text, where a
backslash is written twice. -/
def escapeToken (token : String) : String :=
  String.ofList (token.toList.flatMap fun c => if isPatternMark c then ['\\', '\\', c] else [c])

/-- A text between double quotes, as it is. -/
def quote (s : String) : String := "\"" ++ s ++ "\""

/-- The pattern that any member of a set matches. -/
def alternatives (members : Text.Members) : String :=
  "|".intercalate (members.toList.map fun member => "(" ++ escapeToken member ++ ")")

/-- What follows the equals sign of a label matcher: a quoted text, or for a set the mark of a
pattern and a quoted pattern. -/
def literal : Value → String
  | text s => quote s
  | boolean b => quote (booleanText b)
  | double numeral => quote numeral
  | inSet members => "~" ++ quote (alternatives members)

/-- The one text that a value stands for; a set has none. -/
def asText? : Value → Option String
  | text s => some s
  | boolean b => some (booleanText b)
  | double numeral => some numeral
  | inSet _ => none

/-! ## The value as JSON -/

/-- The kind under which texts are given. -/
def textKind : String := "StringValue"

/-- The kind under which truth values are given. -/
def booleanKind : String := "BooleanValue"

/-- The kind under which numbers are given. -/
def doubleKind : String := "DoubleValue"

/-- The kind under which sets are given. -/
def inSetKind : String := "InSetValue"

/-- The text of a JSON number in a label. -/
def numberText : Json.Number → String
  | .integer n => String.ofList (Json.renderInt n)
  | .float x => fractionText x

/-- Whether a text is a number, blanks around it aside. -/
def isNumeral (s : String) : Bool :=
  (Decimal.readNumber (String.ofList (Text.trim s.toList))).isOk

/-- The truth value that is given. -/
def readBoolean : Json → Except String Value
  | .boolean b => .ok (boolean b)
  | .string s =>
    if Text.lowerCase s = "true" then .ok (boolean true)
    else if Text.lowerCase s = "false" then .ok (boolean false)
    else .error ("Invalid boolean value " ++ s)
  | other => .error ("Invalid boolean value " ++ other.print)

/-- The number that is given. The text of a number stays as it is. -/
def readDouble : Json → Except String Value
  | .number n => .ok (double (numberText n))
  | .string s => if isNumeral s then .ok (double s) else .error ("Invalid double value " ++ s)
  | other => .error ("Invalid double value " ++ other.print)

/-- The set that is given. -/
def readInSet : Json → Except String Value
  | .array items => .ok (ofTexts (items.map Json.plainText))
  | other => .error ("Invalid set value " ++ other.print)

/-- The value that is given under a kind. -/
def ofJson (kind : String) (value : Json) : Except String Value :=
  if kind = textKind then .ok (text value.plainText)
  else if kind = booleanKind then readBoolean value
  else if kind = doubleKind then readDouble value
  else if kind = inSetKind then readInSet value
  else .error ("Unknown condition value type " ++ kind)

/-- A number's text as JSON: the number itself if the text is a JSON number. -/
def numeralJson (numeral : String) : Json :=
  match Json.parse numeral with
  | .ok (.number n) => .number n
  | _ => .string numeral

/-- The kind of a value and the value without it. -/
def parts : Value → String × Json
  | text s => (textKind, .string s)
  | boolean b => (booleanKind, .boolean b)
  | double numeral => (doubleKind, numeralJson numeral)
  | inSet members => (inSetKind, .array (members.toList.map .string))

/-- A value as JSON. -/
def toJson (value : Value) : Json :=
  .object [("value", value.parts.2), ("_type", .string value.parts.1)]

/-- The fields of a value while they are read. -/
structure Draft where
  value : Option Json := none
  kind : Option String := none

/-- How a kind and a value are read. -/
def record : Json.Record Draft (String × Json) where
  name := "RawConditionValue"
  fields := [
    Json.field "value" false Draft.value (fun d v => { d with value := some v }) Json.readValue,
    Json.field "_type" true Draft.kind (fun d v => { d with kind := some v }) Json.readString]
  empty := {}
  build draft := do
    pure (draft.kind.getD textKind, ← Json.require "value" draft.value)

/-- Reads a value. -/
def read : Json.Reader Value :=
  Json.readRefined record.read fun (kind, value) => ofJson kind value

end Condition.Value

end MetricGateway
