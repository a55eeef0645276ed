import MetricGateway.Error
import MetricGateway.Text.Basic

/-!
# Aggregation methods

The methods by which samples are combined, and the query text that applies each of them to a
gauge or to a counter.
-/

namespace MetricGateway

/-- A share of samples below which a percentile lies. -/
inductive Percentile where
  | p25
  | p50
  | p75
  | p90
  | p95
  | p98
  | p99
  deriving DecidableEq, Repr

namespace Percentile

/-- All percentiles in ascending order. -/
def all : List Percentile := [p25, p50, p75, p90, p95, p98, p99]

/-- The two digits of a percentile. -/
def digits : Percentile → String
  | p25 => "25"
  | p50 => "50"
  | p75 => "75"
  | p90 => "90"
  | p95 => "95"
  | p98 => "98"
  | p99 => "99"

/-- A percentile as a share of one. -/
def share (p : Percentile) : String := "0." ++ p.digits

end Percentile

/-- A method by which samples are combined. -/
inductive Method where
  | mean
  | percentile (p : Percentile)
  | max
  | min
  | sum
  | eventCount
  deriving DecidableEq, Repr

namespace Method

/-- All methods. -/
def all : List Method :=
  mean :: Percentile.all.map percentile ++ [max, min, sum, eventCount]

/-- The name of a method. -/
def name : Method → String
  | mean => "mean"
  | percentile p => "percentile_" ++ p.digits
  | max => "max"
  | min => "min"
  | sum => "sum"
  | eventCount => "event_count"

/-- The method with the given name in any letter case. No name holds a character whose lower case
lies outside the basic alphabet, so the letters of that alphabet decide. -/
def ofName (given : String) : Except QueryError Method :=
  match all.find? fun method => method.name = Text.lowerCase given with
  | some method => .ok method
  | none => .error (.unsupportedAggregation given)

/-- A length of time in seconds, as queries write it. -/
def seconds (n : Nat) : String := Nat.repr n ++ "s"

/-- The interval at which the increase of a counter is sampled. -/
def discretionSeconds : Nat := 60

/-- The increase of a counter over a window. -/
def increase (expression : String) (window : Nat) : String :=
  "increase(" ++ expression ++ "[" ++ seconds window ++ "])"

/-- A method applied to a gauge: all series at one moment are combined, only the count of events
looks back over the window. -/
def wrapGauge (method : Method) (expression : String) (window : Nat) : String :=
  match method with
  | mean => "avg(" ++ expression ++ ")"
  | percentile p => "quantile(" ++ p.share ++ "," ++ expression ++ ")"
  | max => "max(" ++ expression ++ ")"
  | min => "min(" ++ expression ++ ")"
  | sum => "sum(" ++ expression ++ ")"
  | eventCount => "count_over_time(" ++ expression ++ "[" ++ seconds window ++ "])"

/-- A method applied to a counter: its increase over the window is sampled within the window, and
the samples are combined over time. -/
def wrapCounter (method : Method) (expression : String) (window : Nat) : String :=
  let samples :=
    increase expression window ++ "[" ++ seconds window ++ ":" ++ seconds discretionSeconds ++ "]"
  match method with
  | mean => "avg_over_time(" ++ samples ++ ")"
  | percentile p => "quantile_over_time(" ++ p.share ++ "," ++ samples ++ ")"
  | max => "max_over_time(" ++ samples ++ ")"
  | min => "min_over_time(" ++ samples ++ ")"
  | sum => "sum_over_time(" ++ samples ++ ")"
  | eventCount => "count_over_time(" ++ samples ++ ")"

end Method

end MetricGateway
