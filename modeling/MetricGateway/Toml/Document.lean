import MetricGateway.Toml.Value

/-!
# Configuration files

A file consists of lines that give a value to a key, under headers that say in which table. No
key may be given twice, and no table may be opened twice.
-/

namespace MetricGateway.Toml

/-- Entries with a table opened by its header. -/
def Entries.openTable : List String → Entries → Option Entries
  | [], _ => none
  | [key], entries =>
    Entries.change key
      (fun
        | none => some (.table .byHeader [])
        | some (.table .byPath inner) => some (.table .byHeader inner)
        | some _ => none)
      entries
  | key :: rest, entries =>
    Entries.change key
      (fun
        | none => (Entries.openTable rest []).map (.table .byPath)
        | some (.table opening inner) => (Entries.openTable rest inner).map (.table opening)
        | some (.tables (last :: before)) =>
          (Entries.openTable rest last).map fun last => .tables (last :: before)
        | some _ => none)
      entries

/-- Entries with one more table of a header that may be repeated. -/
def Entries.addTable : List String → Entries → Option Entries
  | [], _ => none
  | [key], entries =>
    Entries.change key
      (fun
        | none => some (.tables [[]])
        | some (.tables tables) => some (.tables ([] :: tables))
        | some _ => none)
      entries
  | key :: rest, entries =>
    Entries.change key
      (fun
        | none => (Entries.addTable rest []).map (.table .byPath)
        | some (.table opening inner) => (Entries.addTable rest inner).map (.table opening)
        | some (.tables (last :: before)) =>
          (Entries.addTable rest last).map fun last => .tables (last :: before)
        | some _ => none)
      entries

/-- Entries with a value under a key with dots in the table of a header. -/
def Entries.assignUnder (value : Setting) (key : List String) :
    List String → Entries → Option Entries
  | [], entries => Entries.assign value key entries
  | name :: rest, entries =>
    Entries.change name
      (fun
        | some (.table opening inner) =>
          (Entries.assignUnder value key rest inner).map (.table opening)
        | some (.tables (last :: before)) =>
          (Entries.assignUnder value key rest last).map fun last => .tables (last :: before)
        | _ => none)
      entries

/-- A document that is being read. -/
structure Reading where
  entries : Entries := []
  /-- The header under which values are. -/
  header : List String := []

/-- Reads a header behind its first bracket. -/
def readHeader (reading : Reading) (text : List Char) : Option (Reading × List Char) :=
  match text with
  | '[' :: rest => do
    let (header, rest) ← readKey rest
    match rest with
    | ']' :: ']' :: rest => do
      let entries ← Entries.addTable header reading.entries
      some ({ entries, header }, rest)
    | _ => none
  | text => do
    let (header, rest) ← readKey text
    match rest with
    | ']' :: rest => do
      let entries ← Entries.openTable header reading.entries
      some ({ entries, header }, rest)
    | _ => none

/-- Reads a value with its key. -/
def readPair (reading : Reading) (text : List Char) : Option (Reading × List Char) := do
  let (key, rest) ← readKey text
  match rest with
  | '=' :: rest => do
    let (value, rest) ← readValue (skipSpace rest)
    let entries ← Entries.assignUnder value key reading.header reading.entries
    some ({ reading with entries }, rest)
  | _ => none

/-- Reads what a line says, if it says anything. -/
def readLine (reading : Reading) (text : List Char) : Option (Reading × List Char) :=
  match skipSpace text with
  | [] => some (reading, [])
  | '[' :: rest => readHeader reading rest
  | c :: rest =>
    if c = '#' ∨ c = '\n' ∨ c = '\r' then some (reading, c :: rest)
    else readPair reading (c :: rest)

/-- Reads the lines of a document, given at most how many they are. -/
def readLinesOf : Nat → Reading → List Char → Option Reading
  | 0, _, _ => none
  | count + 1, reading, text => do
    let (reading, rest) ← readLine reading text
    let rest ← skipComment (skipSpace rest)
    match rest with
    | [] => some reading
    | rest => do readLinesOf count reading (← afterLineEnd rest)

/-- The settings of a document. A mark of the byte order at its beginning counts for nothing. -/
def read (document : String) : Option (List (String × Setting)) :=
  let text :=
    match document.toList with
    | '\ufeff' :: rest => rest
    | text => text
  (readLinesOf (text.length + 1) {} text).map fun reading => entriesToSettings reading.entries

end MetricGateway.Toml
