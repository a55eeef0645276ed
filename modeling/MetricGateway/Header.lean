import MetricGateway.Text.Basic

/-!
# Headers

The headers of requests and answers, and the media type in the header that says what kind of body a
message has: a type, a subtype that may name a suffix behind a plus sign, and parameters.
-/

namespace MetricGateway

/-- A header with its name in lower case. -/
structure Header where
  name : String
  value : String
  deriving DecidableEq, Repr

namespace Header

/-- Whether a text can be the value of a header: it holds no control character but tabs. -/
def isValue (text : String) : Bool :=
  text.toList.all fun c => (0x20 ≤ c.toNat && c.toNat ≠ 0x7F) || c = '\t'

end Header

/-- What kind of body a message has. Type, subtype, suffix and the names of parameters are in
lower case. -/
structure MediaType where
  type : String
  subtype : String
  suffix : Option String
  parameters : List (String × String)
  deriving DecidableEq, Repr

namespace MediaType

/-- Whether a character may stand in a name. -/
def isToken (c : Char) : Bool :=
  c.isAlpha || c.isDigit || "!#$%&'*+-.^_\x60|~".toList.contains c

/-- Whether a character may stand between quotation marks. -/
def isQuotable (c : Char) : Bool := 0x20 ≤ c.toNat && c.toNat < 0x7F

/-- A part of the header in lower case. -/
def lower (text : List Char) : String := String.ofList (text.map Char.toLower)

/-- A subtype and its suffix. The sign at the beginning of a subtype opens no suffix. -/
def splitSuffix (text : List Char) : List Char × Option (List Char) :=
  let suffix := (text.reverse.takeWhile (· ≠ '+')).reverse
  if suffix.length = text.length ∨ suffix.length + 1 = text.length then (text, none)
  else (text.take (text.length - suffix.length - 1), some suffix)

/-- A parameter and what follows the semicolon behind it. -/
abbrev Parameter := (String × String) × List Char

/-- What follows the next semicolon, before which only spaces may stand. -/
def afterSemicolon (text : List Char) : Option (List Char) :=
  match text.dropWhile (· = ' ') with
  | [] => some []
  | ';' :: rest => some rest
  | _ => none

/-- The value between quotation marks, and what follows its semicolon. -/
def readQuoted (text : List Char) : Option (List Char × List Char) :=
  let value := text.takeWhile fun c => c ≠ '"'
  if value = [] || !value.all isQuotable then none
  else
    match text.drop value.length with
    | '"' :: rest => (afterSemicolon rest).map fun rest => (value, rest)
    | _ => none

/-- A value without quotation marks, and what follows its semicolon. -/
def readPlain (text : List Char) : Option (List Char × List Char) :=
  let value := text.takeWhile isToken
  match text.drop value.length with
  | [] => some (value, [])
  | ';' :: rest => if value = [] then none else some (value, rest)
  | _ => none

/-- The parameter at the beginning of a text. -/
def readParameter (text : List Char) : Option Parameter :=
  let name := text.takeWhile isToken
  if name = [] then none
  else
    match text.drop name.length with
    | '=' :: '"' :: rest => do
      let (value, rest) ← readQuoted rest
      some ((lower name, String.ofList value), rest)
    | '=' :: rest => do
      let (value, rest) ← readPlain rest
      some ((lower name, String.ofList value), rest)
    | _ => none

/-- The parameters of a text, given at most how many they are. -/
def readParameters : Nat → List Char → Option (List (String × String))
  | 0, _ => some []
  | count + 1, text =>
    match text.dropWhile (· = ' ') with
    | [] => some []
    | text => do
      let (parameter, rest) ← readParameter text
      let parameters ← readParameters count rest
      some (parameter :: parameters)

/-- The media type that a header names. -/
def read (header : String) : Option MediaType := do
  let text := header.toList
  let type := text.takeWhile isToken
  match text.drop type.length with
  | '/' :: rest =>
    let subtype := rest.takeWhile isToken
    let (name, suffix) := splitSuffix subtype
    let parameters ←
      match rest.drop subtype.length with
      | [] => some []
      | ';' :: rest => if subtype = [] then none else readParameters rest.length rest
      | _ => none
    if type = [] then none
    else
      some { type := lower type, subtype := lower name, suffix := suffix.map lower, parameters }
  | _ => none

/-- The value of the first parameter of a name. -/
def parameter? (mediaType : MediaType) (name : String) : Option String :=
  (mediaType.parameters.find? fun parameter => parameter.1 = name).map Prod.snd

/-- Whether a body of this kind is JSON. -/
def isJson (mediaType : MediaType) : Bool :=
  mediaType.type = "application" &&
    (mediaType.subtype = "json" || mediaType.suffix = some "json")

end MediaType

end MetricGateway
