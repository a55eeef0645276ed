import MetricGateway.Json.Reader

/-!
# Reading JSON into records

A record is read from an object, whose unknown keys are passed over, or from a list of its fields
in their order. While it is read its fields are gathered in a draft, from which the record is
built in the end.
-/

namespace MetricGateway.Json

/-- Reads a value of one type from a text. -/
abbrev Reader (α : Type) := Scope → List Char → Except Fault (α × List Char)

/-- The fault of a value of another type than the wanted one. -/
def wrongType {α : Type} (wanted : String) (found : Found) : Except Fault α :=
  fail (.wrongType found wanted)

/-- Reads a text. -/
def readString : Reader String := fun scope input => do
  match ← readScalar scope.mark input with
  | (.string s, rest) => pure (s, rest)
  | (found, _) => wrongType "a string" found

/-- Reads a truth value. -/
def readBoolean : Reader Bool := fun scope input => do
  match ← readScalar scope.mark input with
  | (.boolean b, rest) => pure (b, rest)
  | (found, _) => wrongType "a boolean" found

/-- Reads a natural number of 64 bits. -/
def readNat (wanted : String) : Reader Nat := fun scope input => do
  match ← readScalar scope.mark input with
  | (.number (.integer n), rest) =>
    if n < 0 then fail (.wrongValue (.number (.integer n)) wanted) else pure (n.toNat, rest)
  | (found, _) => wrongType wanted found

/-- Reads a value that may be null. -/
def readOptional {α : Type} (read : Reader α) : Reader (Option α) := fun scope input =>
  match skipSpace input with
  | 'n' :: rest => do pure (none, ← readWord "ull".toList rest)
  | _ => do
    let (value, rest) ← read scope input
    pure (some value, rest)

/-- Reads a list. -/
def readList {α : Type} (item : Reader α) : Reader (List α) := fun scope input => do
  match ← readScalar scope.mark input with
  | (.array, rest) =>
    let inner ← scope.inner
    readItems (item inner) (rest.length + 1) [] rest
  | (found, _) => wrongType "a sequence" found

/-- Reads a value of any shape. -/
def readValue : Reader Json := fun scope input => readAny scope.mark scope.depth input

/-- Reads a value and turns it into another, or refuses it with a message. -/
def readRefined {α β : Type} (read : Reader α) (refine : α → Except String β) : Reader β :=
  fun scope input => do
    let (value, rest) ← read scope input
    match refine value with
    | .ok refined => pure (refined, rest)
    | .error message => fail (.refused message)

/-- One field of a record whose draft is `σ`. -/
structure Field (σ : Type) where
  /-- The key of the field. -/
  name : String
  /-- Whether a list of fields may end before this field. -/
  isOptional : Bool
  /-- Whether a draft has the field already. -/
  isFilled : σ → Bool
  /-- Reads the field into a draft. -/
  fill : σ → Reader σ

/-- The field whose value is kept in one place of the draft. -/
def field {σ α : Type} (name : String) (isOptional : Bool) (get : σ → Option α)
    (put : σ → α → σ) (read : Reader α) : Field σ where
  name
  isOptional
  isFilled draft := (get draft).isSome
  fill draft scope input := do
    let (value, rest) ← read scope input
    pure (put draft value, rest)

/-- How a record is read. -/
structure Record (σ α : Type) where
  /-- The name of the record in messages. -/
  name : String
  /-- The fields in their order. -/
  fields : List (Field σ)
  /-- The draft without any field. -/
  empty : σ
  /-- Builds the record, or names the first required field that is absent. -/
  build : σ → Except Fault α

namespace Record

variable {σ α : Type}

/-- Reads one entry of an object: a field that is not filled yet, or a value to pass over. -/
def readEntry (record : Record σ α) (scope : Scope) (draft : σ) (key : String)
    (input : List Char) : Except Fault (σ × List Char) :=
  match record.fields.find? fun field => field.name = key with
  | none => readMember key (fun start => do pure (draft, ← skipAny start)) input
  | some field =>
    if field.isFilled draft then fail (.duplicateField key)
    else readMember key (field.fill draft scope) input

/-- The wanted length in the message about a list that is too short. -/
def wantedLength (record : Record σ α) : String :=
  let count := record.fields.length
  "struct " ++ record.name ++ " with " ++ Nat.repr count ++
    (if count = 1 then " element" else " elements")

/-- Ends a list of fields: nothing may follow the last field. -/
def closeFields (input : List Char) : Except Fault (List Char) :=
  match skipSpace input with
  | [] => fail .endInList
  | ']' :: rest => .ok rest
  | ',' :: rest =>
    match skipSpace rest with
    | ']' :: _ => fail .trailingComma
    | _ => fail .trailingText
  | _ => fail .trailingText

/-- Reads the given fields, the last ones of the record, from a list after its opening bracket. -/
def readFields (record : Record σ α) (scope : Scope) :
    List (Field σ) → σ → List Char → Except Fault (σ × List Char)
  | [], draft, input => do pure (draft, ← closeFields input)
  | field :: fields, draft, input => do
    let index := record.fields.length - (fields.length + 1)
    match ← within (.index index) (nextItem (index = 0) input) with
    | .done rest =>
      match (field :: fields).findIdx? fun field => !field.isOptional with
      | some i => fail (.wrongLength (index + i) record.wantedLength)
      | none => pure (draft, rest)
    | .next start => do
      let (draft, rest) ← within (.index index) (field.fill draft scope start)
      readFields record scope fields draft rest

/-- Reads a record from an object or from a list of its fields. -/
def read (record : Record σ α) : Reader α := fun scope input => do
  let (draft, rest) ←
    match ← readScalar scope.mark input with
    | (.object, rest) => do
      readEntries scope.mark (record.readEntry (← scope.inner)) (rest.length + 1) true
        record.empty rest
    | (.array, rest) => do
      record.readFields (← scope.inner) record.fields record.empty rest
    | (found, _) => wrongType ("struct " ++ record.name) found
  pure (← record.build draft, rest)

end Record

/-- The value of a required field. -/
def require {α : Type} (name : String) : Option α → Except Fault α
  | some value => .ok value
  | none => fail (.missingField name)

/-- Reads a text as one value of a type. -/
def readDocument {α : Type} (read : Reader α) (input : String) : Except Fault α := do
  finishDocument (← read (documentScope none) input.toList)

end MetricGateway.Json
