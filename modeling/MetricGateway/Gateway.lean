import MetricGateway.Points
import MetricGateway.Query
import MetricGateway.Registry

/-!
# Operations of the gateway

What the gateway does for those who know nothing of a backend but its connection: it probes the
backend, fetches the points of a metric, and lists the names and the values of fields.
-/

namespace MetricGateway.Gateway

/-- The label that holds the name of a metric. -/
def nameLabel : String := "__name__"

/-- The label that a field stands for. The keys that select a metric by its name list names of
metrics. -/
def labelOf (field : String) : String :=
  if field = Condition.counterKey ∨ field = Condition.gaugeKey then nameLabel else field

/-- What a client is asked for a query. -/
def rangeQuery (query : Query) (method : Option Method) : Client.RangeQuery where
  conditions := query.conditions
  start := query.startMillis / 1000
  stop := query.endMillis / 1000
  method := method
  window := query.windowMillis / 1000
  limit := some query.limit

/-- The points that samples make. -/
def points (query : Query) (policy : NanPolicy) (samples : List Sample) :
    Option Method → Except Error Telemetry
  | some _ =>
    ((Points.buckets samples query.endMillis query.windowMillis policy).map
      Telemetry.aggregated).mapError Error.response
  | none => ((Points.raw samples query.endMillis policy).map Telemetry.raw).mapError Error.response

/-- The method of a query, if it has an aggregation. -/
def method (query : Query) : Except Error (Option Method) :=
  (query.aggregation.mapM Aggregation.method).mapError Error.query

/-- Fetches the points of a metric with a client. -/
def telemetry (world : World) (query : Query) (client : Client) : Exchange Telemetry := do
  let method ← (method query : Except Error (Option Method))
  let samples ← client.samples world (rangeQuery query method)
  (points query client.nanPolicy samples method : Except Error Telemetry)

/-- Probes the backend of a connection. -/
def probe (registry : Registry) (world : World) (connection : Connection) :
    Step Client.Health :=
  registry.withClient world connection fun client => client.probe world

/-- Fetches the points of the metric that a query selects. -/
def fetchMetric (registry : Registry) (world : World) (connection : Connection) (query : Query) :
    Step Telemetry :=
  registry.withClient world connection (telemetry world query)

/-- A page with names before its values. -/
def withNames (names : List String) (page : Page) : Page :=
  { page with values := names ++ page.values }

/-- Lists the names of fields: the selecting keys, and then the labels of the backend. -/
def fieldNames (registry : Registry) (world : World) (connection : Connection) (limit : Nat) :
    Step Page :=
  registry.withClient world connection fun client => do
    let page ← client.labels world limit
    pure (withNames Condition.reservedKeys page)

/-- Lists a page of the values of a field that begin with a text, if one is given. -/
def fieldValues (registry : Registry) (world : World) (connection : Connection) (field : String)
    (start : Option String) (offset limit : Nat) : Step Page :=
  registry.withClient world connection fun client =>
    client.labelValues world (labelOf field) start offset limit

end MetricGateway.Gateway
