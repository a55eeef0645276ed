import MetricGateway.Connection
import MetricGateway.Decimal.Reading
import MetricGateway.Payload
import MetricGateway.Text.Basic

/-!
# Points

The samples of a metric become points: raw ones at their moment, or buckets that start there and
have the width of the window. Points after the end of the range are left out.
-/

namespace MetricGateway

/-- A value at a moment. -/
structure RawPoint where
  value : Binary64
  /-- Milliseconds since the epoch. -/
  timestamp : Nat
  deriving DecidableEq, Repr

/-- A value for an interval of time. -/
structure BucketPoint where
  value : Binary64
  /-- The start of the interval, in milliseconds since the epoch. -/
  start : Nat
  /-- The end of the interval. -/
  stop : Nat
  deriving DecidableEq, Repr

/-- The points of a metric. -/
inductive Telemetry where
  | raw (points : List RawPoint)
  | aggregated (points : List BucketPoint)
  deriving DecidableEq, Repr

/-- A point as JSON: its value, then its moment. -/
def RawPoint.toJson (point : RawPoint) : Json :=
  .array [.number (.float point.value), .ofNat point.timestamp]

/-- A bucket as JSON: its value, then its interval. -/
def BucketPoint.toJson (point : BucketPoint) : Json :=
  .array [.number (.float point.value), .ofNat point.start, .ofNat point.stop]

namespace Telemetry

/-- The points as JSON values. -/
def items : Telemetry → List Json
  | raw points => points.map RawPoint.toJson
  | aggregated points => points.map BucketPoint.toJson

/-- How many points there are. -/
def size : Telemetry → Nat
  | raw points => points.length
  | aggregated points => points.length

end Telemetry

namespace Sample

/-- The moment of a sample, in milliseconds since the epoch. -/
def millis (sample : Sample) : Nat := (sample.seconds.scale 1000).toWord

/-- Whether the value of a sample is the text for not-a-number. -/
def isNaNText (sample : Sample) : Bool := Text.sameLetters sample.value "nan"

/-- The value of a sample under a policy; nothing if it is to be left out. -/
def reading (policy : NanPolicy) (sample : Sample) : Except ResponseError (Option Binary64) :=
  if sample.isNaNText then
    match policy with
    | .zero => .ok (some Binary64.zero)
    | .skip => .ok none
  else
    match Decimal.readNumber sample.value with
    | .ok value => .ok (some value)
    | .error fault =>
      .error (.invalidPayload
        ("Sample value " ++ sample.value ++ " is not a number: " ++ fault.message))

end Sample

namespace Points

/-- The points of the samples that are in range, built from the sample and its value. A value is
only looked at if its sample is in range. -/
def collect {α : Type} (policy : NanPolicy) (inRange : Sample → Bool)
    (build : Sample → Binary64 → α) : List Sample → Except ResponseError (List α)
  | [] => .ok []
  | sample :: samples =>
    if inRange sample then do
      match ← sample.reading policy with
      | some value => do
        let points ← collect policy inRange build samples
        pure (build sample value :: points)
      | none => collect policy inRange build samples
    else collect policy inRange build samples

/-- The raw points of samples no later than the end. -/
def raw (samples : List Sample) (stop : Nat) (policy : NanPolicy) :
    Except ResponseError (List RawPoint) :=
  collect policy (fun sample => sample.millis ≤ stop)
    (fun sample value => { value, timestamp := sample.millis }) samples

/-- The end of the bucket that starts at a sample. It does not go beyond 64 bits. -/
def bucketStop (window : Nat) (sample : Sample) : Nat :=
  min (sample.millis + window) Binary64.maxWord

/-- The buckets of samples that end no later than the end. -/
def buckets (samples : List Sample) (stop window : Nat) (policy : NanPolicy) :
    Except ResponseError (List BucketPoint) :=
  collect policy (fun sample => bucketStop window sample ≤ stop)
    (fun sample value => { value, start := sample.millis, stop := bucketStop window sample })
    samples

end Points

end MetricGateway
