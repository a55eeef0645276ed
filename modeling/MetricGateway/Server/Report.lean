import MetricGateway.Gateway
import MetricGateway.Server.Body

/-!
# What the server reports

The outcomes of the operations of the gateway as JSON.
-/

namespace MetricGateway.Server

/-- The report that a backend is well. -/
def healthyJson : Json :=
  .object [("_type", .string "TestConnectionResponse"), ("status", .string "OK"),
    ("error", .null)]

/-- The report that a backend is not well. -/
def unhealthyJson (details : String) : Json :=
  .object [("_type", .string "TestConnectionResponse"), ("status", .string "FAILURE"),
    ("error", .object [("_type", .string "MetricStoreConnectionError"),
      ("details", .string details)])]

/-- The name of a kind of points. -/
def telemetryName : Telemetry → String
  | .raw _ => "RawMetricTelemetry"
  | .aggregated _ => "AggregatedMetricTelemetry"

/-- The names of the parts of a point. -/
def pointParts : Telemetry → List String
  | .raw _ => ["value", "timestamp"]
  | .aggregated _ => ["value", "startTimestamp", "endTimestamp"]

/-- The report of points. -/
def telemetryJson (telemetry : Telemetry) : Json :=
  .object [("_type", .string "MetricsResponse"),
    ("telemetry", .object [
      ("_type", .string (telemetryName telemetry)),
      ("points", .array telemetry.items),
      ("dataFormat", .array ((pointParts telemetry).map Json.string)),
      ("isPartial", .boolean false)])]

/-- The report of names of fields. -/
def namesJson (page : Page) : Json :=
  .object [("_type", .string "FieldNamesResponse"),
    ("fields", .array (page.values.map fun name => ({ name } : FieldDescriptor).toJson)),
    ("isPartial", .boolean page.isPartial)]

/-- A value of a field in a report. -/
def valueJson (value : String) : Json :=
  .object [("_type", .string "CompleteValue"), ("value", .string value)]

/-- The report of values of a field. -/
def valuesJson (page : Page) : Json :=
  .object [("_type", .string "FieldValuesResponse"), ("values", .array (page.values.map valueJson)),
    ("isPartial", .boolean page.isPartial)]

/-- The report of a failure. -/
def failure (summary : String) (details : Json) : Answer :=
  .json 500 (.object [("_type", .string "RemoteMirrorError"), ("details", details),
    ("summary", .string summary)])

/-- The report that a metric is not found. -/
def metricNotFound (metric : String) (details : Json) : Answer :=
  .json 500 (.object [("_type", .string "MetricNotFoundError"), ("details", details),
    ("metric", .string metric)])

/-- The report of a body that is not accepted. -/
def rejected (rejection : Rejection) : Answer :=
  failure "Request validation errors." (.object [("detail", .string rejection.message)])

/-- The report of a failure with a message only. -/
def failed (message : String) : Answer :=
  failure "Internal server error." (.object [("message", .string message)])

/-- The message for a query that names no field although it has to. -/
def fieldRequired : String := "Invalid input Field name required."

/-- The report of a failure to fetch the metric of a query. -/
def metricFailed (query : Query) : Error → Answer
  | .query (.requiredSelector message) => metricNotFound query.toJson.print (.string message)
  | .query (.unsupportedAggregation method) => failure "Unsupported aggregation." (.string method)
  | .response (.metricNotFound text) => metricNotFound text .null
  | .response (.invalidPayload details) => failure "Invalid prometheus response." (.string details)
  | .response (.ambiguousMetric fields) =>
    failure "Too many metrics." (.array (fields.map Json.string))
  | .response (.backend payload) => failure "Prometheus error." (.string payload)
  | error => failure "Unexpected error." (.string error.message)

/-- The report of the outcome of a probe. -/
def healthAnswer (health : Client.Health) : Answer :=
  if health.status = 200 then .json 200 healthyJson
  else .json health.status (unhealthyJson health.body)

end MetricGateway.Server
