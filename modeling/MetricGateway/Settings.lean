import MetricGateway.Environment
import MetricGateway.Toml.Document

/-!
# Settings of the server

Settings come from three layers: a default file, which has to be there, a file for the mode in
which the server runs, and the environment. What a later layer gives takes the place of what an
earlier one gives, key by key. Only what is left in the end has to be of the right kind.
-/

namespace MetricGateway

/-- What the server needs to know to run. -/
structure Settings where
  port : Nat
  host : String
  apiKey : String
  /-- How many threads do the work. -/
  workers : Nat
  deriving DecidableEq, Repr

/-- Why there are no settings. -/
inductive SettingsError where
  /-- The default file is not there. -/
  | missingFile
  /-- A file cannot be read. -/
  | malformedFile
  /-- A setting is not given, or the server is described neither by a table nor by an array. -/
  | incomplete
  /-- A setting is of another kind than it should be. -/
  | wrongKind
  deriving DecidableEq, Repr

namespace Setting

/-- Entries with a value under a key. -/
def putEntry (key : String) (value : Setting) :
    List (String × Setting) → List (String × Setting)
  | [] => [(key, value)]
  | (name, there) :: rest =>
    if name = key then (name, value) :: rest else (name, there) :: putEntry key value rest

mutual

/-- What stands where `there` stood when a value is laid over it. A table is laid over a table
entry by entry. -/
def layOver (there : Option Setting) : Setting → Setting
  | .table incoming => layEntries (there.getD (.table [])) incoming
  | .text value => .text value
  | .integer value => .integer value
  | .float value => .float value
  | .boolean value => .boolean value
  | .list values => .list values

/-- What becomes of a value when entries are laid over it. Only if there are any does it become a
table. -/
def layEntries (there : Setting) : List (String × Setting) → Setting
  | [] => there
  | (key, value) :: rest =>
    layEntries
      (.table (putEntry key (layOver (there.entries.lookup key) value) there.entries)) rest

end

/-- Whether a character may stand in a part of a path. -/
def isPathChar (c : Char) : Bool := Text.isAlphanumeric c || c = '_' || c = '-'

/-- The keys that a path names, from the outermost one on. What is no path is one key. -/
def pathOf (key : String) : List String :=
  let parts := key.toList.splitOn '.'
  if parts.all fun part => part ≠ [] && part.all isPathChar then parts.map String.ofList
  else [key]

/-- A value under keys, from the outermost one on. -/
def under (value : Setting) : List String → Setting
  | [] => value
  | key :: rest => .table [(key, under value rest)]

/-- What becomes of a value when a layer is laid over it, whose keys are paths. -/
def lay (there : Setting) (layer : List (String × Setting)) : Setting :=
  layer.foldl (fun there (key, value) => layOver (some there) (under value (pathOf key))) there

end Setting

namespace Settings

open Setting (lay)

/-- What the names of variables that count begin with. -/
def variableStart : List Char := "mirror__".toList

/-- A name with each pair of underscores as a dot. -/
def dotted : List Char → List Char
  | '_' :: '_' :: rest => '.' :: dotted rest
  | c :: rest => c :: dotted rest
  | [] => []

/-- The path of the setting that a variable gives. Letter case does not count. -/
def variablePath (name : String) : Option String :=
  let lower := name.toList.map Char.toLower
  if variableStart.isPrefixOf lower then
    some (String.ofList (dotted (lower.drop variableStart.length)))
  else none

/-- The layer of the environment, as far as it is texts. Where it is not, the program stops before
there are settings. -/
def environmentLayer (environment : Environment) : List (String × Setting) :=
  environment.filterMap fun (name, value) => do
    let path ← variablePath name
    let text ← value.text?
    some (path, .text text)

/-- The variable that names the mode. -/
def modeVariable : String := "RUN_MODE"

/-- The mode if none is named. -/
def defaultMode : String := "development"

/-- The file of a mode. -/
def fileOfMode (directory mode : String) : String := directory ++ "/" ++ mode ++ ".toml"

/-- The layer that a file gives. -/
def fileLayer : Option String → Except SettingsError (List (String × Setting))
  | none => .ok []
  | some content =>
    match Toml.read content with
    | some layer => .ok layer
    | none => .error .malformedFile

/-- The natural number of a setting that is at most as large as given. -/
def wordUpTo (limit : Nat) (value : Setting) : Except SettingsError Nat :=
  match value.word? with
  | some n => if n ≤ limit then .ok n else .error .wrongKind
  | none => .error .wrongKind

/-- The text of a setting. -/
def textOf (value : Setting) : Except SettingsError String :=
  match value.text? with
  | some text => .ok text
  | none => .error .wrongKind

/-- The greatest port. -/
def maxPort : Nat := 65535

/-- A setting that need not be given. -/
def optionally {α : Type} (read : Setting → Except SettingsError α) :
    Option Setting → Except SettingsError (Option α)
  | some value => (read value).map some
  | none => .ok none

/-- A setting that has to be given. -/
def require {α : Type} : Option α → Except SettingsError α
  | some value => .ok value
  | none => .error .incomplete

/-- The settings in the table of the server. A setting of the wrong kind is noticed before one that
is not given. -/
def ofServer (entries : List (String × Setting)) : Except SettingsError Settings := do
  let port ← optionally (wordUpTo maxPort) (entries.lookup "port")
  let host ← optionally textOf (entries.lookup "host")
  let apiKey ← optionally textOf (entries.lookup "api_key")
  let workers ← optionally (wordUpTo Binary64.maxWord) (entries.lookup "workers")
  pure {
    port := ← require port
    host := ← require host
    apiKey := ← require apiKey
    workers := ← require workers }

/-- The setting in the next place of an array. -/
def inPlace {α : Type} (read : Setting → Except SettingsError α) :
    Option Setting → Except SettingsError α
  | some value => read value
  | none => .error .incomplete

/-- The settings in an array for the server, each in its place. Here a place that is missing is
noticed before a later one of the wrong kind. -/
def ofArray (values : List Setting) : Except SettingsError Settings := do
  let port ← inPlace (wordUpTo maxPort) values[0]?
  let host ← inPlace textOf values[1]?
  let apiKey ← inPlace textOf values[2]?
  let workers ← inPlace (wordUpTo Binary64.maxWord) values[3]?
  pure { port, host, apiKey, workers }

/-- The settings in all layers together. -/
def ofLayers (layers : Setting) : Except SettingsError Settings :=
  match layers.entries.lookup "server" with
  | some (.table entries) => ofServer entries
  | some (.list values) => ofArray values
  | _ => .error .incomplete

/-- Reads the settings in a directory, given the contents of files. -/
def read (directory : String) (content : String → Option String) (environment : Environment) :
    Except SettingsError Settings := do
  let mode := (environment.get? modeVariable).getD defaultMode
  let defaults ←
    match content (fileOfMode directory "default") with
    | some text => fileLayer (some text)
    | none => throw .missingFile
  let ofMode ← fileLayer (content (fileOfMode directory mode))
  ofLayers (lay (lay (lay (.table []) defaults) ofMode) (environmentLayer environment))

end Settings

end MetricGateway
