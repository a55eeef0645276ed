import MetricGateway.Settings.Value
import MetricGateway.Text.Encoding
import MetricGateway.Toml.Moment
import MetricGateway.Toml.Number
import MetricGateway.Toml.Quoted

/-!
# Values of a configuration file

A value is a text, a number, a date, a word for yes or no, a list of values, or a table within one
line.
-/

namespace MetricGateway.Toml

/-- Whether a character may stand in a key without quotation marks. -/
def isBareChar (c : Char) : Bool := Text.isAlphanumeric c || c = '-' || c = '_'

/-- What follows the blanks at the beginning of a text. -/
def skipSpace (text : List Char) : List Char := text.dropWhile isSpace

/-- One part of a key. -/
def readKeyPart (text : List Char) : Option ReadText :=
  match readQuotedLine text with
  | some read => some read
  | none =>
    let bare := text.takeWhile isBareChar
    if bare = [] then none else some (String.ofList bare, text.drop bare.length)

/-- The parts of a key, with dots between them, given at most how many they are. -/
def readKeyFrom : Nat → List Char → Option (List String × List Char)
  | 0, _ => none
  | count + 1, text => do
    let (part, rest) ← readKeyPart (skipSpace text)
    match skipSpace rest with
    | '.' :: rest => do
      let (parts, rest) ← readKeyFrom count rest
      some (part :: parts, rest)
    | rest => some ([part], rest)

/-- The parts of a key. -/
def readKey (text : List Char) : Option (List String × List Char) :=
  readKeyFrom (text.length + 1) text

/-- What follows a comment at the beginning of a text, up to the end of the line. -/
def skipComment (text : List Char) : Option (List Char) :=
  match text with
  | '#' :: rest =>
    let rest := rest.dropWhile isLineChar
    if rest = [] ∨ (afterLineEnd rest).isSome then some rest else none
  | text => some text

/-- What follows blanks, comments and line ends, given at most how many lines there are. -/
def skipLines : Nat → List Char → Option (List Char)
  | 0, text => some text
  | count + 1, text => do
    let rest ← skipComment (skipSpace text)
    match afterLineEnd rest with
    | some rest => skipLines count rest
    | none => some rest

/-- What follows blanks, comments and line ends. -/
def skipGap (text : List Char) : Option (List Char) := skipLines (text.length + 1) text

/-- Whether a character may stand in a number, a date or a word. -/
def isPlainChar (c : Char) : Bool := Text.isAlphanumeric c || "+-._:".toList.contains c

/-- The number, the date or the word that a text is. -/
def ofPlain (text : List Char) : Option Setting :=
  if text = "true".toList then some (.boolean true)
  else if text = "false".toList then some (.boolean false)
  else
    match readInteger text, readFloat text, readMoment text with
    | some n, _, _ => some (.integer n)
    | none, some x, _ => some (.float x)
    | none, none, some moment => some (.text moment)
    | none, none, none => none

/-- The characters of a number, a date or a word. A date may have a space before its time. -/
def takePlain (text : List Char) : List Char :=
  let plain := text.takeWhile isPlainChar
  match readDate plain, text.drop plain.length with
  | some (_, []), ' ' :: d :: rest =>
    if d.isDigit then plain ++ ' ' :: (d :: rest).takeWhile isPlainChar else plain
  | _, _ => plain

/-- The number, the date or the word at the beginning of a text. -/
def readPlain (text : List Char) : Option (Setting × List Char) :=
  let plain := takePlain text
  (ofPlain plain).map fun value => (value, text.drop plain.length)

/-- How a table or one of its parts came to be, which decides what may still be added to it. -/
inductive Opening where
  /-- By a longer header. -/
  | byPath
  /-- By its own header. -/
  | byHeader
  /-- By keys with dots. -/
  | byDots
  deriving DecidableEq, Repr

/-- A part of a document that is being read. -/
inductive Item where
  | value (value : Setting)
  | table (opening : Opening) (entries : List (String × Item))
  /-- Tables of one header, the last one first. -/
  | tables (tables : List (List (String × Item)))

/-- The parts of a table under their keys. -/
abbrev Entries := List (String × Item)

/-- Entries with another item under a key, if the item that is there allows it. -/
def Entries.change (key : String) (new : Option Item → Option Item) : Entries → Option Entries
  | [] => (new none).map fun item => [(key, item)]
  | (name, item) :: rest =>
    if name = key then (new (some item)).map fun item => (name, item) :: rest
    else (Entries.change key new rest).map ((name, item) :: ·)

/-- Entries with a value under a key with dots. Keys with dots may only add to tables that such
keys have made. -/
def Entries.assign (value : Setting) : List String → Entries → Option Entries
  | [], _ => none
  | [key], entries =>
    Entries.change key (fun | none => some (.value value) | some _ => none) entries
  | key :: rest, entries =>
    Entries.change key
      (fun
        | none => (Entries.assign value rest []).map (.table .byDots)
        | some (.table .byDots inner) => (Entries.assign value rest inner).map (.table .byDots)
        | some (.table .byPath inner) =>
          if rest.length ≤ 1 then none
          else (Entries.assign value rest inner).map (.table .byPath)
        | some _ => none)
      entries

mutual

/-- The value of an item. -/
def Item.toSetting : Item → Setting
  | .value value => value
  | .table _ entries => .table (entriesToSettings entries)
  | .tables tables => .list (tablesToSettings tables).reverse

/-- The values of entries. -/
def entriesToSettings : List (String × Item) → List (String × Setting)
  | [] => []
  | (key, item) :: rest => (key, item.toSetting) :: entriesToSettings rest

/-- The values of tables. -/
def tablesToSettings : List (List (String × Item)) → List Setting
  | [] => []
  | entries :: rest => .table (entriesToSettings entries) :: tablesToSettings rest

end

mutual

/-- The value at the beginning of a text, given a bound on how deep and how long it is. -/
def readValueFrom : Nat → List Char → Option (Setting × List Char)
  | 0, _ => none
  | fuel + 1, text =>
    match text with
    | '[' :: rest => do
      let (values, rest) ← readItemsFrom fuel (← skipGap rest)
      some (.list values, rest)
    | '\x7b' :: rest =>
      match skipSpace rest with
      | '\x7d' :: rest => some (.table [], rest)
      | rest => do
        let (entries, rest) ← readPairsFrom fuel [] rest
        some (.table (entriesToSettings entries), rest)
    | text =>
      match readQuoted text with
      | some (read, rest) => some (.text read, rest)
      | none => readPlain text

/-- The rest of the values of a list. -/
def readItemsFrom : Nat → List Char → Option (List Setting × List Char)
  | 0, _ => none
  | fuel + 1, text =>
    match text with
    | ']' :: rest => some ([], rest)
    | text => do
      let (value, rest) ← readValueFrom fuel text
      match ← skipGap rest with
      | ']' :: rest => some ([value], rest)
      | ',' :: rest => do
        let (values, rest) ← readItemsFrom fuel (← skipGap rest)
        some (value :: values, rest)
      | _ => none

/-- The rest of the pairs of a table within one line. -/
def readPairsFrom : Nat → Entries → List Char → Option (Entries × List Char)
  | 0, _, _ => none
  | fuel + 1, entries, text => do
    let (key, rest) ← readKey text
    match skipSpace rest with
    | '=' :: rest => do
      let (value, rest) ← readValueFrom fuel (skipSpace rest)
      let entries ← Entries.assign value key entries
      match skipSpace rest with
      | '\x7d' :: rest => some (entries, rest)
      | ',' :: rest => readPairsFrom fuel entries rest
      | _ => none
    | _ => none

end

/-- The value at the beginning of a text. -/
def readValue (text : List Char) : Option (Setting × List Char) :=
  readValueFrom (2 * text.length + 2) text

end MetricGateway.Toml
