import MetricGateway.Json.Token

/-!
# Reading JSON

Readers of lists, objects and whole values. All of them pass over the text once, so the first
fault in the order of the text is the one reported.

Loops over items and entries are bounded by the length of the text, since every round takes at
least one character; nested values are bounded by the number of brackets that may still be opened.
-/

namespace MetricGateway.Json

/-- What a reader knows besides the text. -/
structure Scope where
  /-- How many more brackets may be opened. -/
  depth : Nat
  /-- The character that stands for bytes that are no characters, if there are any. -/
  mark : Option Char := none
  deriving Repr

/-- At most this many brackets are open at once. -/
def maxDepth : Nat := 127

/-- The scope of a whole document. -/
def documentScope (mark : Option Char) : Scope := { depth := maxDepth, mark }

/-- The scope inside one more bracket. -/
def Scope.inner (scope : Scope) : Except Fault Scope :=
  match scope.depth with
  | 0 => fail .tooDeep
  | depth + 1 => .ok { scope with depth }

/-- Where a loop over items or entries goes. -/
inductive Turn where
  /-- To another item, or to the key of another entry behind its opening quote. -/
  | next (start : List Char)
  /-- Past the closing bracket. -/
  | done (rest : List Char)
  deriving Repr

/-- Goes to the next item of a list, given whether it is the first. -/
def nextItem (isFirst : Bool) (input : List Char) : Except Fault Turn :=
  match skipSpace input with
  | [] => fail .endInList
  | ']' :: rest => .ok (.done rest)
  | c :: rest =>
    if isFirst then .ok (.next (c :: rest))
    else if c = ',' then
      match skipSpace rest with
      | [] => fail .endInValue
      | ']' :: _ => fail .trailingComma
      | start => .ok (.next start)
    else fail .noListEnd

/-- Goes to the next key of an object, given whether it is the first. -/
def nextKey (isFirst : Bool) (input : List Char) : Except Fault Turn :=
  match skipSpace input with
  | [] => fail .endInObject
  | '\x7d' :: rest => .ok (.done rest)
  | c :: rest =>
    if isFirst then
      if c = '\"' then .ok (.next rest) else fail .noKey
    else if c = ',' then
      match skipSpace rest with
      | [] => fail .endInValue
      | '\"' :: key => .ok (.next key)
      | '\x7d' :: _ => fail .trailingComma
      | _ => fail .noKey
    else fail .noObjectEnd

/-- Passes over the colon after a key. -/
def skipColon (input : List Char) : Except Fault (List Char) :=
  match skipSpace input with
  | [] => fail .endInObject
  | ':' :: rest => .ok rest
  | _ => fail .noColon

/-- Reads the items of a list after its opening bracket, at most `room` of them, with those before
them in reverse. -/
def readItems {α : Type} (item : List Char → Except Fault (α × List Char)) :
    Nat → List α → List Char → Except Fault (List α × List Char)
  | 0, _, _ => fail .endInList
  | room + 1, before, input => do
    match ← within (.index before.length) (nextItem before.isEmpty input) with
    | .done rest => pure (before.reverse, rest)
    | .next start => do
      let (value, rest) ← within (.index before.length) (item start)
      readItems item room (value :: before) rest

/-- Reads the entries of an object after its opening bracket, at most `room` of them. Each entry
is read from behind its key into the state of those before it. -/
def readEntries {σ : Type} (mark : Option Char)
    (entry : σ → String → List Char → Except Fault (σ × List Char)) :
    Nat → Bool → σ → List Char → Except Fault (σ × List Char)
  | 0, _, _, _ => fail .endInObject
  | room + 1, isFirst, state, input => do
    match ← within .unknown (nextKey isFirst input) with
    | .done rest => pure (state, rest)
    | .next start => do
      let (key, afterKey) ← within .unknown (readText mark start)
      let (state, rest) ← entry state key afterKey
      readEntries mark entry room false state rest

/-- Reads what follows the key of an entry: the colon and the value. -/
def readMember {α : Type} (key : String) (value : List Char → Except Fault (α × List Char))
    (input : List Char) : Except Fault (α × List Char) :=
  within (.key key) do
    let start ← skipColon input
    value start

/-- Reads a value that holds no other values, or says which bracket opens here. -/
def readScalar (mark : Option Char) (input : List Char) : Except Fault (Found × List Char) :=
  match skipSpace input with
  | [] => fail .endInValue
  | 'n' :: rest => do pure (.null, ← readWord "ull".toList rest)
  | 't' :: rest => do pure (.boolean true, ← readWord "rue".toList rest)
  | 'f' :: rest => do pure (.boolean false, ← readWord "alse".toList rest)
  | '\"' :: rest => do
    let (s, rest) ← readText mark rest
    pure (.string s, rest)
  | '[' :: rest => .ok (.array, rest)
  | '\x7b' :: rest => .ok (.object, rest)
  | c :: rest =>
    if c = '-' ∨ c.isDigit then do
      let (n, rest) ← readNumber (c :: rest)
      pure (.number n, rest)
    else fail .noValue

/-- Reads a value of any shape, with at most `depth` brackets open at once. Of entries with the
same key the last one stays, and entries are kept in the order of their keys. -/
def readAny (mark : Option Char) : Nat → List Char → Except Fault (Json × List Char)
  | depth, input => do
    match ← readScalar mark input with
    | (.null, rest) => pure (.null, rest)
    | (.boolean b, rest) => pure (.boolean b, rest)
    | (.number n, rest) => pure (.number n, rest)
    | (.string s, rest) => pure (.string s, rest)
    | (.array, rest) =>
      match depth with
      | 0 => fail .tooDeep
      | depth + 1 => do
        let (items, rest) ← readItems (readAny mark depth) (rest.length + 1) [] rest
        pure (.array items, rest)
    | (.object, rest) =>
      match depth with
      | 0 => fail .tooDeep
      | depth + 1 => do
        let (entries, rest) ← readEntries mark
          (fun entries key input => do
            let (value, rest) ← readMember key (readAny mark depth) input
            pure (insertEntry key value entries, rest))
          (rest.length + 1) true [] rest
        pure (.object entries, rest)

/-- What a passed-over value is inside of. -/
inductive Frame where
  | array
  | object
  deriving DecidableEq, Repr

/-- Where in a passed-over value the text stands. -/
inductive Spot where
  /-- Before a value. -/
  | value
  /-- Before a key, or for the first one before the end of the object. -/
  | key
  /-- Behind a value. -/
  | behind
  /-- Behind an opening bracket. -/
  | opened
  deriving DecidableEq, Repr

/-- Passes over a key and the colon after it. -/
def skipKey (input : List Char) : Except Fault (List Char) := do
  match skipSpace input with
  | [] => fail .endInObject
  | '\"' :: key => skipColon (← skipText key)
  | _ => fail .noKey

/-- Passes over a value of any depth, given the frames around it, in at most `room` rounds. Its
parts are only checked as far as is needed to find its end. -/
def skipFrom : Nat → Spot → List Frame → List Char → Except Fault (List Char)
  | 0, _, _, _ => fail .endInValue
  | room + 1, .value, frames, input =>
    match skipSpace input with
    | [] => fail .endInValue
    | 'n' :: rest => do skipFrom room .behind frames (← readWord "ull".toList rest)
    | 't' :: rest => do skipFrom room .behind frames (← readWord "rue".toList rest)
    | 'f' :: rest => do skipFrom room .behind frames (← readWord "alse".toList rest)
    | '\"' :: rest => do skipFrom room .behind frames (← skipText rest)
    | '[' :: rest => skipFrom room .opened (.array :: frames) rest
    | '\x7b' :: rest => skipFrom room .opened (.object :: frames) rest
    | c :: rest =>
      if c = '-' ∨ c.isDigit then do skipFrom room .behind frames (← skipNumber (c :: rest))
      else fail .noValue
  | room + 1, .key, frames, input => do skipFrom room .value frames (← skipKey input)
  | _ + 1, _, [], input => .ok input
  | room + 1, .opened, frame :: frames, input =>
    match frame, skipSpace input with
    | .array, [] => fail .endInList
    | .object, [] => fail .endInObject
    | .array, ']' :: rest => skipFrom room .behind frames rest
    | .object, '\x7d' :: rest => skipFrom room .behind frames rest
    | .array, rest => skipFrom room .value (frame :: frames) rest
    | .object, rest => skipFrom room .key (frame :: frames) rest
  | room + 1, .behind, frame :: frames, input =>
    match frame, skipSpace input with
    | .array, [] => fail .endInList
    | .object, [] => fail .endInObject
    | .array, ']' :: rest => skipFrom room .behind frames rest
    | .object, '\x7d' :: rest => skipFrom room .behind frames rest
    | .array, ',' :: rest => skipFrom room .value (frame :: frames) rest
    | .object, ',' :: rest => skipFrom room .key (frame :: frames) rest
    | .array, _ => fail .noListEnd
    | .object, _ => fail .noObjectEnd

/-- Passes over a value of any shape and depth. -/
def skipAny (input : List Char) : Except Fault (List Char) :=
  skipFrom (3 * input.length + 3) .value [] input

/-- Checks that nothing but blanks is left. -/
def finishDocument {α : Type} (read : α × List Char) : Except Fault α :=
  match skipSpace read.2 with
  | [] => .ok read.1
  | _ => fail .trailingText

/-- Reads a text as one value of any shape. -/
def parse (input : String) : Except Fault Json := do
  finishDocument (← readAny none maxDepth input.toList)

end MetricGateway.Json
