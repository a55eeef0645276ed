import MetricGateway.Json.Printer
import MetricGateway.Text.Quoted

/-!
# What can be wrong with a JSON text

A fault has a cause and the path of the part it was found in. Causes are of two sorts: the text is
not JSON, or it is JSON of another shape than the one wanted.
-/

namespace MetricGateway.Json

/-- What was found in the place of a wanted value. -/
inductive Found where
  | null
  | boolean (b : Bool)
  | number (n : Number)
  | string (s : String)
  | array
  | object
  deriving DecidableEq, Repr

/-- The wording of what was found. -/
def Found.message : Found → String
  | null => "null"
  | boolean b => "boolean `" ++ (if b then "true" else "false") ++ "`"
  | number (.integer n) => "integer `" ++ String.ofList (renderInt n) ++ "`"
  | number (.float x) =>
    "floating point `" ++ Decimal.renderBinary fractionLayout x ++ "`"
  | string s => "string " ++ Text.quoted s
  | array => "sequence"
  | object => "map"

/-- What a value is, for a message. -/
def found : Json → Found
  | null => .null
  | boolean b => .boolean b
  | number n => .number n
  | string s => .string s
  | array _ => .array
  | object _ => .object

/-- Why a text is no JSON text, or not one of the wanted shape. -/
inductive Cause where
  /-- The text ends where a value should be. -/
  | endInValue
  /-- The text ends inside a list. -/
  | endInList
  /-- The text ends inside an object. -/
  | endInObject
  /-- The text ends inside a quoted text. -/
  | endInText
  /-- Something else stands where a value should be. -/
  | noValue
  /-- A word begins like one of the three literals and does not go on like it. -/
  | noWord
  /-- No colon follows a key. -/
  | noColon
  /-- Neither a comma nor the end follows an item. -/
  | noListEnd
  /-- Neither a comma nor the end follows an entry. -/
  | noObjectEnd
  /-- Something else stands where a key should be. -/
  | noKey
  /-- The end follows a comma. -/
  | trailingComma
  /-- Something follows the end. -/
  | trailingText
  /-- The digits do not form a number. -/
  | badNumber
  /-- The number is too large for the number format. -/
  | numberOutOfRange
  /-- An escape that does not exist. -/
  | badEscape
  /-- The first half of a pair of escapes stands alone. -/
  | unfinishedPair
  /-- One half of a pair of escapes stands in the place of another. -/
  | loneHalf
  /-- A control character stands unescaped in a text. -/
  | controlCharacter
  /-- A text holds bytes that are no characters. -/
  | badCodePoint
  /-- Too many brackets are open at once. -/
  | tooDeep
  /-- A value of another type than the wanted one. -/
  | wrongType (found : Found) (wanted : String)
  /-- A value of the wanted type outside the wanted range. -/
  | wrongValue (found : Found) (wanted : String)
  /-- A list of another length than the wanted one. -/
  | wrongLength (length : Nat) (wanted : String)
  /-- A required field is absent. -/
  | missingField (name : String)
  /-- A field is given twice. -/
  | duplicateField (name : String)
  /-- The value was read and then refused, with a message of its own. -/
  | refused (message : String)
  deriving DecidableEq, Repr

/-- Whether the text is JSON, though not of the wanted shape. -/
def Cause.isOfShape : Cause → Bool
  | wrongType .. | wrongValue .. | wrongLength .. | missingField _ | duplicateField _ | refused _ =>
    true
  | _ => false

/-- The wording of a cause. -/
def Cause.message : Cause → String
  | endInValue => "EOF while parsing a value"
  | endInList => "EOF while parsing a list"
  | endInObject => "EOF while parsing an object"
  | endInText => "EOF while parsing a string"
  | noValue => "expected value"
  | noWord => "expected ident"
  | noColon => "expected `:`"
  | noListEnd => "expected `,` or `]`"
  | noObjectEnd => "expected `,` or `\x7d`"
  | noKey => "key must be a string"
  | trailingComma => "trailing comma"
  | trailingText => "trailing characters"
  | badNumber => "invalid number"
  | numberOutOfRange => "number out of range"
  | badEscape => "invalid escape"
  | unfinishedPair => "unexpected end of hex escape"
  | loneHalf => "lone leading surrogate in hex escape"
  | controlCharacter => "control character (\\u0000-\\u001F) found while parsing a string"
  | badCodePoint => "invalid unicode code point"
  | tooDeep => "recursion limit exceeded"
  | wrongType found wanted => "invalid type: " ++ found.message ++ ", expected " ++ wanted
  | wrongValue found wanted => "invalid value: " ++ found.message ++ ", expected " ++ wanted
  | wrongLength length wanted =>
    "invalid length " ++ Nat.repr length ++ ", expected " ++ wanted
  | missingField name => "missing field `" ++ name ++ "`"
  | duplicateField name => "duplicate field `" ++ name ++ "`"
  | refused message => message

/-- One step from a value to a part of it. -/
inductive Segment where
  /-- To the value under a key. -/
  | key (name : String)
  /-- To the item at an index. -/
  | index (i : Nat)
  /-- To an entry whose key could not be read. -/
  | unknown
  deriving DecidableEq, Repr

/-- A cause and the path to the part where it was found, from the outermost value inwards. -/
structure Fault where
  cause : Cause
  path : List Segment := []
  deriving DecidableEq, Repr

/-- The same fault seen from a value that holds the part under the given segment. -/
def Fault.within (segment : Segment) (fault : Fault) : Fault :=
  { fault with path := segment :: fault.path }

/-- A segment as text. -/
def Segment.message : Segment → String
  | key name => name
  | index i => "[" ++ Nat.repr i ++ "]"
  | unknown => "?"

/-- A path as text: keys are set apart by points, indices follow directly. -/
def pathMessage : List Segment → String
  | [] => ""
  | first :: rest =>
    rest.foldl
      (fun text segment =>
        match segment with
        | .index _ => text ++ segment.message
        | _ => text ++ "." ++ segment.message)
      first.message

/-- The wording of a fault, after its path if any part of the path is known. -/
def Fault.message (fault : Fault) : String :=
  if fault.path.all fun segment => segment = .unknown then fault.cause.message
  else pathMessage fault.path ++ ": " ++ fault.cause.message

end MetricGateway.Json
