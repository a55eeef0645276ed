import MetricGateway.Binary64

/-!
# JSON values

Values of the data format in which queries arrive and the backend answers. A number keeps whether
it was written as an integer, since an integer and a fraction of equal value print differently.
-/

namespace MetricGateway

/-- A number of a JSON value. -/
inductive Json.Number where
  /-- A number written as an integer of 64 bits. -/
  | integer (n : Int)
  /-- Any other number. -/
  | float (x : Binary64)
  deriving DecidableEq, Repr

/-- A JSON value. -/
inductive Json where
  | null
  | boolean (b : Bool)
  | number (n : Json.Number)
  | string (s : String)
  | array (items : List Json)
  /-- The entries of an object, in the order in which they are written. -/
  | object (entries : List (String × Json))
  deriving Repr

namespace Json

/-- Puts a value under a key into entries sorted by key, in place of the value that was there. -/
def insertEntry {α : Type} (key : String) (value : α) : List (String × α) → List (String × α)
  | [] => [(key, value)]
  | (k, v) :: rest =>
    if key < k then (key, value) :: (k, v) :: rest
    else if key = k then (key, value) :: rest
    else (k, v) :: insertEntry key value rest

/-- The value under a key of an object; nothing for any other value. -/
def get? (key : String) : Json → Option Json
  | object entries => entries.lookup key
  | _ => none

/-- The text of a text value. -/
def asText? : Json → Option String
  | string s => some s
  | _ => none

/-- The items of a list value. -/
def asList? : Json → Option (List Json)
  | array items => some items
  | _ => none

/-- A natural number as a value. -/
def ofNat (n : Nat) : Json := number (.integer n)

/-- A text or null. -/
def ofText? : Option String → Json
  | some s => string s
  | none => null

end Json

end MetricGateway
