import MetricGateway.Aggregation
import MetricGateway.Condition

/-!
# Compiling conditions

A list of conditions becomes one query text. Exactly one condition chooses what is queried: a
gauge, a counter, or a whole query text that is used as it is. All others become label matchers in
the order in which they are given.
-/

namespace MetricGateway.PromQL

/-- What is queried. -/
inductive Selector where
  | gauge (name : String)
  | counter (name : String)
  | raw (query : String)
  deriving DecidableEq, Repr

/-- What a selecting condition with a single text chooses. -/
def Selector.ofKey (key text : String) : Selector :=
  if key = Condition.gaugeKey then gauge text
  else if key = Condition.counterKey then counter text
  else raw text

/-- The one condition that chooses what is queried. -/
def selectingCondition (conditions : List Condition) : Except QueryError Condition :=
  match conditions.filter Condition.isSelector with
  | [condition] => .ok condition
  | [] =>
    .error (.requiredSelector
      ("One of " ++ Text.quotedList Condition.reservedKeys ++ " is required"))
  | _ =>
    .error (.requiredSelector ("Multiple values for " ++ Text.quotedList Condition.reservedKeys))

/-- What the conditions query. -/
def selector (conditions : List Condition) : Except QueryError Selector := do
  let condition ← selectingCondition conditions
  match condition.value.asText? with
  | some text => pure (.ofKey condition.key text)
  | none =>
    throw (.requiredSelector ("Selector " ++ condition.key ++ " requires a single value"))

/-- The conditions that are label matchers. -/
def labelConditions (conditions : List Condition) : List Condition :=
  conditions.filter fun condition => !condition.isSelector

/-- The clause of label matchers behind a metric name. -/
def labelClause (conditions : List Condition) : String :=
  "\x7b" ++ ", ".intercalate (conditions.map Condition.matcher) ++ "\x7d"

/-- The query text for a gauge. -/
def gaugeQuery (method : Option Method) (expression : String) (window : Nat) : String :=
  match method with
  | some method => method.wrapGauge expression window
  | none => expression

/-- The query text for a counter, whose increase is what counts. -/
def counterQuery (method : Option Method) (expression : String) (window : Nat) : String :=
  match method with
  | some method => method.wrapCounter expression window
  | none => Method.increase expression Method.discretionSeconds

/-- The query text of a selector with its label clause, a method and a window in seconds. -/
def render (clause : String) (method : Option Method) (window : Nat) : Selector → String
  | .gauge name => gaugeQuery method (name ++ clause) window
  | .counter name => counterQuery method (name ++ clause) window
  | .raw query => query

/-- The query text of a list of conditions. -/
def compile (conditions : List Condition) (method : Option Method) (window : Nat) :
    Except QueryError String := do
  let selector ← selector conditions
  pure (render (labelClause (labelConditions conditions)) method window selector)

end MetricGateway.PromQL
