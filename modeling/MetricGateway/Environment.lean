import MetricGateway.Text.Encoding

/-!
# Environments

The variables that are set, with their values. A variable is set at most once, and only a value that
is a text counts. A line of an environment file gives a value to a variable. A value may refer to
other variables with a dollar sign; it may be quoted, and only single quotation marks take away the
meaning of dollar signs and backslashes. The first line that cannot be read ends the file.
-/

namespace MetricGateway

/-- What a variable is set to: a text, or bytes that are none. -/
inductive EnvironmentValue where
  | text (value : String)
  | bytes (value : Text.Bytes)
  deriving DecidableEq, Repr

/-- The text of a value. -/
def EnvironmentValue.text? : EnvironmentValue → Option String
  | text value => some value
  | bytes _ => none

/-- The variables that are set, the one set last at the end. -/
abbrev Environment := List (String × EnvironmentValue)

namespace Environment

/-- The text of a variable. A variable that is set to something else is as good as one that is not
set. -/
def get? (environment : Environment) (name : String) : Option String :=
  (environment.lookup name).bind EnvironmentValue.text?

/-- Whether a variable can be set to a text at all. -/
def isSettable (name text : String) : Bool :=
  name ≠ "" && name.toList.all (fun c => c ≠ '=' && c ≠ '\x00') && text.toList.all (· ≠ '\x00')

/-- The environment with a variable set to a text. -/
def set (environment : Environment) (name text : String) : Environment :=
  environment.filter (fun entry => entry.1 ≠ name) ++ [(name, .text text)]

/-- The environment with a variable set to a text, unless it has one already. There is none if the
variable cannot be set: the program stops there. -/
def setIfAbsent (environment : Environment) (name text : String) : Option Environment :=
  match environment.get? name with
  | some _ => some environment
  | none => if isSettable name text then some (environment.set name text) else none

/-- Whether a character may be the first one of a name. -/
def opensName (c : Char) : Bool := c.isAlpha || c = '_'

/-- Whether a character may stand in a name. -/
def isNameChar (c : Char) : Bool := Text.isAlphanumeric c || c = '_' || c = '.'

/-- What the next character of a value belongs to. -/
inductive Mode where
  /-- To the value itself. -/
  | plain
  /-- To a text in single quotation marks. -/
  | single
  /-- To a text in double quotation marks. -/
  | double
  /-- To nothing: only a comment may follow. -/
  | ended
  deriving DecidableEq, Repr

/-- A reference that has begun. -/
inductive Reference where
  | none
  /-- A name behind a dollar sign, the last character first. -/
  | bare (name : List Char)
  /-- A name in braces, the last character first. -/
  | braced (name : List Char)
  deriving DecidableEq, Repr

/-- What has been read of a value. -/
structure Reading where
  mode : Mode := .plain
  /-- Whether a backslash has been read. -/
  escaped : Bool := false
  reference : Reference := .none
  /-- The value so far, the last character first. -/
  seen : List Char := []

namespace Reading

/-- The value with one more character. -/
def push (reading : Reading) (c : Char) : Reading := { reading with seen := c :: reading.seen }

/-- The value with what a reference stands for. -/
def resolve (values : String → String) (reading : Reading) (name : List Char) : Reading :=
  { reading with
    reference := .none
    seen := (values (String.ofList name.reverse)).toList.reverse ++ reading.seen }

/-- What has been read after a character behind a backslash. -/
def nextEscaped (reading : Reading) (c : Char) : Option Reading :=
  let reading := { reading with escaped := false }
  if c = 'n' then some (reading.push '\n')
  else if "\\'\"$ ".toList.contains c then some (reading.push c)
  else none

/-- What has been read after a character behind the name of a reference. -/
def nextBare (isAlphanumeric : Char → Bool) (values : String → String) (reading : Reading)
    (name : List Char) (c : Char) : Reading :=
  if isAlphanumeric c then { reading with reference := .bare (c :: name) }
  else if c = '\x7b' ∧ name = [] then { reading with reference := .braced [] }
  else if c = '$' then { reading.resolve values name with reference := .bare [] }
  else (reading.resolve values name).push c

/-- What has been read after a character in the braces of a reference. -/
def nextBraced (values : String → String) (reading : Reading) (name : List Char) (c : Char) :
    Reading :=
  if c = '\x7d' then reading.resolve values name
  else { reading with reference := .braced (c :: name) }

/-- What has been read after a character of its own. -/
def nextPlain (reading : Reading) (c : Char) : Reading :=
  if c = '$' then { reading with reference := .bare [] }
  else if c = '\\' then { reading with escaped := true }
  else if c = '"' then
    { reading with mode := if reading.mode = .double then .plain else .double }
  else if reading.mode = .double then reading.push c
  else if c = '\'' then { reading with mode := .single }
  else if c = ' ' ∨ c = '\t' then { reading with mode := .ended }
  else reading.push c

/-- What has been read after one more character, given the values of variables. -/
def next (isAlphanumeric : Char → Bool) (values : String → String) (reading : Reading) (c : Char) :
    Option Reading :=
  if reading.escaped then reading.nextEscaped c
  else if reading.mode = .single then
    some (if c = '\'' then { reading with mode := .plain } else reading.push c)
  else
    match reading.reference with
    | .bare name => some (reading.nextBare isAlphanumeric values name c)
    | .braced name => some (reading.nextBraced values name c)
    | .none => some (reading.nextPlain c)

/-- The value when nothing follows, unless a quotation mark or a brace is open. -/
def finish (values : String → String) (reading : Reading) : Option String :=
  let closed := reading.mode ≠ .single && reading.mode ≠ .double
  match reading.reference with
  | .none => if closed then some (String.ofList reading.seen.reverse) else none
  | .bare name =>
    if closed then some (String.ofList (reading.resolve values name).seen.reverse) else none
  | .braced _ => none

end Reading

/-- Reads a value from what has been read of it on. Behind its end only a comment may stand. -/
def readValueFrom (isAlphanumeric : Char → Bool) (values : String → String) :
    Reading → List Char → Option String
  | reading, [] => reading.finish values
  | reading, c :: rest =>
    if reading.mode = .ended then
      if c = ' ' ∨ c = '\t' then readValueFrom isAlphanumeric values reading rest
      else if c = '#' then reading.finish values
      else none
    else
      match reading.next isAlphanumeric values c with
      | some reading => readValueFrom isAlphanumeric values reading rest
      | none => none

/-- A name at the beginning of a text, and what follows the blanks behind it. -/
def readName (text : List Char) : Option (String × List Char) :=
  match text with
  | [] => none
  | c :: _ =>
    let name := text.takeWhile isNameChar
    if opensName c then
      some (String.ofList name, (text.drop name.length).dropWhile Text.isBlank)
    else none

/-- A name with the text behind its equals sign. The word `export` may stand before it. -/
def readAssignment (text : List Char) : Option (String × List Char) := do
  let (name, rest) ← readName text
  match rest with
  | '=' :: rest => some (name, rest)
  | rest =>
    if name ≠ "export" then none
    else
      match ← readName rest with
      | (name, '=' :: rest) => some (name, rest)
      | _ => none

/-- What a line says. -/
inductive Line where
  /-- Nothing. -/
  | silent
  | definition (name value : String)
  /-- It cannot be read. -/
  | malformed
  deriving DecidableEq, Repr

/-- Reads a line, given which characters are letters or digits, and the values of variables. -/
def readLine (isAlphanumeric : Char → Bool) (values : String → String) (line : String) : Line :=
  let text := Text.trim line.toList
  if text = [] ∨ text.head? = some '#' then .silent
  else
    match readAssignment text with
    | none => .malformed
    | some (name, rest) =>
      let rest := rest.dropWhile Text.isBlank
      if rest = [] ∨ rest.head? = some '#' then .definition name ""
      else
        match readValueFrom isAlphanumeric values {} rest with
        | some value => .definition name value
        | none => .malformed

/-- A line without the mark that ends some lines before the line feed. -/
def withoutReturn (line : Text.Bytes) : Text.Bytes :=
  if line.getLast? = some 0x0D then line.dropLast else line

/-- The lines of a file, with nothing in the place of one that is no text. -/
def linesOf (content : Text.Bytes) : List (Option String) :=
  (content.splitOn 0x0A).map fun line => Text.ofUtf8? (withoutReturn line)

/-- The value to which a reference resolves: that of the environment, or else the last one that the
file has given. -/
def valueOf (environment : Environment) (given : List (String × String)) (name : String) : String :=
  ((environment.get? name).or (given.lookup name)).getD ""

/-- How a line is read, given the values of variables. -/
abbrev LineReader := (String → String) → String → Line

/-- What a line says, if it is a text. -/
def readLine? (readLine : LineReader) (values : String → String) : Option String → Line
  | some line => readLine values line
  | none => .malformed

/-- The environment after lines of a file, given what the file has defined before, the last
definition first. -/
def loadLines (readLine : LineReader) (environment : Environment) (given : List (String × String)) :
    List (Option String) → Option Environment
  | [] => some environment
  | line :: rest =>
    match readLine? readLine (valueOf environment given) line with
    | .silent => loadLines readLine environment given rest
    | .definition name value =>
      (environment.setIfAbsent name value).bind fun environment =>
        loadLines readLine environment ((name, value) :: given) rest
    | .malformed => some environment

/-- The environment after a file, if there is one. -/
def loadFile (readLine : LineReader) (environment : Environment) :
    Option Text.Bytes → Option Environment
  | some content => loadLines readLine environment [] (linesOf content)
  | none => some environment

/-- The environment files in the order in which they are read. -/
def fileNames : List String := [".env", ".env-creds"]

/-- The environment after all environment files, given how lines are read and the contents of files.
There is none if the program stops at a variable that cannot be set. -/
def loadFiles (readLine : LineReader) (environment : Environment)
    (content : String → Option Text.Bytes) : Option Environment :=
  fileNames.foldlM (fun environment name => environment.loadFile readLine (content name))
    environment

end Environment

end MetricGateway
