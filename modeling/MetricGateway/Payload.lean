import MetricGateway.Error
import MetricGateway.Json.Reader
import MetricGateway.Text.Members

/-!
# Payloads of the backend

What the backend answers to a range query is a list of series, of which there has to be exactly
one; what it answers to a listing is a list of texts. A payload may also report an error.
-/

namespace MetricGateway

/-- One measured value. -/
structure Sample where
  /-- Seconds since the epoch. -/
  seconds : Binary64
  /-- The value as the backend writes it. -/
  value : String
  deriving DecidableEq, Repr

/-- The samples of one metric. -/
structure Series where
  /-- The labels of the metric with their values. -/
  labels : List (String × Json) := []
  samples : List Sample := []
  deriving Repr

namespace Series

/-- The number nearest to a JSON number. -/
def toBinary : Json.Number → Binary64
  | .integer n => Binary64.ofInt n
  | .float x => x

/-- A number. -/
def readSeconds : Json → Except Json.Cause Binary64
  | .number n => .ok (toBinary n)
  | other => .error (.wrongType other.found "f64")

/-- A text. -/
def readValue : Json → Except Json.Cause String
  | .string s => .ok s
  | other => .error (.wrongType other.found "a string")

/-- What a sample is in messages. -/
def pairName : String := "a tuple of size 2"

/-- The complaint about a list with more items than are wanted. -/
def tooLong (items : List Json) : Json.Cause :=
  .wrongLength items.length "fewer elements in array"

/-- A sample: a list of a number and a text. -/
def readSample : Json → Except Json.Cause Sample
  | .array items =>
    match items with
    | [] => .error (.wrongLength 0 pairName)
    | seconds :: others => do
      let seconds ← readSeconds seconds
      match others with
      | [] => throw (.wrongLength 1 pairName)
      | value :: others => do
        let value ← readValue value
        if others = [] then pure { seconds, value } else throw (tooLong items)
  | other => .error (.wrongType other.found pairName)

/-- The labels of a series. -/
def readLabels : Json → Except Json.Cause (List (String × Json))
  | .object entries => .ok entries
  | other => .error (.wrongType other.found "a map")

/-- The samples of a series. -/
def readSamples : Json → Except Json.Cause (List Sample)
  | .array items => items.mapM readSample
  | other => .error (.wrongType other.found "a sequence")

/-- A part of a series, empty if it is absent. -/
def readPart {α : Type} (read : Json → Except Json.Cause (List α)) :
    Option Json → Except Json.Cause (List α)
  | some part => read part
  | none => .ok []

/-- A series: an object with labels and samples, or a list of the two. -/
def ofJson : Json → Except Json.Cause Series
  | .object entries => do
    let labels ← readPart readLabels (entries.lookup "metric")
    let samples ← readPart readSamples (entries.lookup "values")
    pure { labels, samples }
  | .array items => do
    let labels ← readPart readLabels items[0]?
    let samples ← readPart readSamples items[1]?
    if items.length ≤ 2 then pure { labels, samples } else throw (tooLong items)
  | other => .error (.wrongType other.found "struct Series")

/-- The text of a label of a series. -/
def labelText? (series : Series) (label : String) : Option String :=
  (series.labels.lookup label).map Json.plainText

end Series

namespace Payload

/-- Whether a payload reports an error. -/
def isError (payload : Json) : Bool := (payload.get? "status").bind Json.asText? = some "error"

/-- The labels of any of the series, in ascending order. -/
def labelNames (all : List Series) : List String :=
  (Text.Members.ofList (all.flatMap fun series => series.labels.map Prod.fst)).toList

/-- Whether two series have different texts for a label. -/
def differs (all : List Series) (label : String) : Bool :=
  1 < (Text.Members.ofList (all.filterMap fun series => series.labelText? label)).toList.length

/-- The labels for which some series have different texts, in ascending order. -/
def differentiatingLabels (all : List Series) : List String := (labelNames all).filter (differs all)

/-- The items that a range payload lists as series. -/
def resultItems? (payload : Json) : Option (List Json) :=
  ((payload.get? "data").bind (Json.get? "result")).bind Json.asList?

/-- The complaint about a payload of another shape. -/
def invalid (payload : Json) : ResponseError := .invalidPayload payload.print

/-- The series of a range payload. -/
def readSeries (payload : Json) : Except ResponseError (List Series) :=
  match resultItems? payload with
  | none => .error (invalid payload)
  | some items =>
    (items.mapM Series.ofJson).mapError fun cause =>
      .invalidPayload (cause.message ++ ": " ++ payload.print)

/-- The samples of the one series that answers a query. -/
def rangeSamples (query : String) (payload : Json) : Except ResponseError (List Sample) :=
  if isError payload then .error (.backend payload.print)
  else do
    match ← readSeries payload with
    | [] => throw (.metricNotFound query)
    | [series] => pure series.samples
    | all => throw (.ambiguousMetric (differentiatingLabels all))

/-- The texts that a listing holds. -/
def listedTexts? (payload : Json) : Option (List String) := do
  let items ← (payload.get? "data").bind Json.asList?
  items.mapM Json.asText?

/-- The texts of a listing. -/
def listTexts (payload : Json) : Except ResponseError (List String) :=
  if isError payload then .error (.backend payload.print)
  else
    match listedTexts? payload with
    | some texts => .ok texts
    | none => .error (invalid payload)

end Payload

end MetricGateway
