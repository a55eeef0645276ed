import MetricGateway.Condition.Value

/-!
# Conditions

A condition pairs a key with a value. Three keys are reserved: they choose what is queried. All
other keys are labels that have to match.
-/

namespace MetricGateway

/-- A key and what it is compared with. -/
structure Condition where
  key : String
  value : Condition.Value
  /-- The kind of condition, as it was given. It has no influence. -/
  kind : Option String := none
  deriving DecidableEq

namespace Condition

/-- The key under which a counter is named. -/
def counterKey : String := "__counter__"

/-- The key under which a gauge is named. -/
def gaugeKey : String := "__gauge__"

/-- The key under which a whole query is given. -/
def rawQueryKey : String := "~"

/-- The keys that choose what is queried. -/
def reservedKeys : List String := [counterKey, gaugeKey, rawQueryKey]

/-- Whether a condition chooses what is queried. -/
def isSelector (condition : Condition) : Bool := reservedKeys.contains condition.key

/-- A condition as a label matcher. -/
def matcher (condition : Condition) : String := condition.key ++ "=" ++ condition.value.literal

/-- A condition as JSON. -/
def toJson (condition : Condition) : Json :=
  .object (("key", .string condition.key) :: ("value", condition.value.toJson) ::
    match condition.kind with
    | some kind => [("_type", .string kind)]
    | none => [])

/-- The fields of a condition while they are read. -/
structure Draft where
  key : Option String := none
  value : Option Value := none
  kind : Option (Option String) := none

/-- How a condition is read. -/
def record : Json.Record Draft Condition where
  name := "Condition"
  fields := [
    Json.field "key" false Draft.key (fun d v => { d with key := some v }) Json.readString,
    Json.field "value" false Draft.value (fun d v => { d with value := some v }) Value.read,
    Json.field "_type" true Draft.kind (fun d v => { d with kind := some v })
      (Json.readOptional Json.readString)]
  empty := {}
  build draft := do
    let key ← Json.require "key" draft.key
    let value ← Json.require "value" draft.value
    pure { key, value, kind := draft.kind.getD none }

/-- Reads a condition. -/
def read : Json.Reader Condition := record.read

end Condition

end MetricGateway
