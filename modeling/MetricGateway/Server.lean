import MetricGateway.Server.Report

/-!
# The server

The server offers the operations of the gateway over HTTP. Each path goes with certain methods,
and every answer carries the key of the server.
-/

namespace MetricGateway

/-- A server with what it has learned so far. -/
structure Server where
  /-- The key that every answer carries. -/
  apiKey : String
  registry : Registry := .empty

namespace Server

/-- Where a path leads. -/
inductive Route where
  | root
  | connection
  | metric
  | fieldNames
  | fieldValues
  deriving DecidableEq, Repr

namespace Route

/-- The paths with where they lead. -/
def paths : List (String × Route) :=
  [("/", root), ("/api/connection", connection), ("/api/metric", metric),
   ("/api/field/name", fieldNames), ("/api/field/value", fieldValues)]

/-- Where a path leads. -/
def ofPath (path : String) : Option Route := paths.lookup path

/-- The methods that go with a route, as they are told to those who use another one. -/
def allowed : Route → String
  | root => "GET,HEAD"
  | _ => "POST"

end Route

/-- What comes of a request. -/
structure Handled where
  answer : Answer
  /-- The requests that were sent on the way. -/
  requests : List MetricGateway.Request := []
  /-- The requests with which redirects were followed. -/
  followed : List BackendRequest := []
  registry : Registry

/-- What comes of a request that needs no client. -/
def handledAlone (registry : Registry) (answer : Answer) : Handled := { answer, registry }

/-- What comes of a request that needs a client, given the answers to a value and to an error. -/
def handledBy {α : Type} (step : Step α) (answer : α → Answer) (failed : Error → Answer) :
    Handled where
  answer :=
    match step.exchange.result with
    | .ok value => answer value
    | .error error => failed error
  requests := step.exchange.requests
  followed := step.exchange.followed
  registry := step.registry

/-- The answer of the root. -/
def rootAnswer : Answer := .json 200 (.object [("app", .string "Prometheus Mirror")])

/-- Probes the backend of a connection. -/
def handleConnection (registry : Registry) (world : World) (request : ConnectionRequest) :
    Handled :=
  handledBy (Gateway.probe registry world request.connection) healthAnswer
    fun error => failed error.message

/-- Fetches the points of a metric. -/
def handleMetric (registry : Registry) (world : World) (request : QueryRequest) : Handled :=
  handledBy (Gateway.fetchMetric registry world request.connection request.query)
    (fun telemetry => .json 200 (telemetryJson telemetry)) (metricFailed request.query)

/-- Lists the names of fields. -/
def handleFieldNames (registry : Registry) (world : World) (request : QueryRequest) : Handled :=
  handledBy (Gateway.fieldNames registry world request.connection request.query.limit)
    (fun page => .json 200 (namesJson page)) fun error => failed error.message

/-- Lists a page of the values of the field that a query names. -/
def handleFieldValues (registry : Registry) (world : World) (request : QueryRequest) : Handled :=
  let query := request.query
  match query.field with
  | none => handledAlone registry (failed fieldRequired)
  | some field =>
    handledBy
      (Gateway.fieldValues registry world request.connection field.name query.valueStart
        query.effectiveOffset query.limit)
      (fun page => .json 200 (valuesJson page)) fun error => failed error.message

/-- Handles the body of a request, if it is accepted. -/
def handleBody {α : Type} (read : Json.Reader α) (registry : Registry) (request : Request)
    (handle : α → Handled) : Handled :=
  match readBody read request with
  | .ok value => handle value
  | .error rejection => handledAlone registry (rejected rejection)

/-- Handles the body of a request to a route. -/
def handlePosted (registry : Registry) (world : World) (request : Request) : Route → Handled
  | .root => handledAlone registry rootAnswer
  | .connection =>
    handleBody ConnectionRequest.read registry request (handleConnection registry world)
  | .metric => handleBody QueryRequest.read registry request (handleMetric registry world)
  | .fieldNames => handleBody QueryRequest.read registry request (handleFieldNames registry world)
  | .fieldValues =>
    handleBody QueryRequest.read registry request (handleFieldValues registry world)

/-- Handles a request to a route, if its method goes with it. -/
def handleRoute (registry : Registry) (world : World) (request : Request) (route : Route) :
    Handled :=
  match route, request.method with
  | .root, "GET" => handledAlone registry rootAnswer
  | .root, "HEAD" => handledAlone registry rootAnswer.withoutBody
  | .root, _ => handledAlone registry (.notAllowed route.allowed)
  | route, "POST" => handlePosted registry world request route
  | route, _ => handledAlone registry (.notAllowed route.allowed)

/-- Handles a request but for the key. -/
def dispatch (registry : Registry) (world : World) (request : Request) : Handled :=
  match Route.ofPath request.path with
  | some route => handleRoute registry world request route
  | none => handledAlone registry .notFound

/-- The header that carries the key. -/
def keyHeader : String := "x-mirror-api-key"

/-- An answer with the key, if the key can stand in a header. -/
def withKey (apiKey : String) (answer : Answer) : Answer :=
  if Header.isValue apiKey then answer.withHeader ⟨keyHeader, apiKey⟩ else answer

/-- Handles a request. -/
def handle (server : Server) (world : World) (request : Request) : Handled :=
  let handled := dispatch server.registry world request
  { handled with answer := withKey server.apiKey handled.answer }

/-- The server after a request. -/
def next (server : Server) (world : World) (request : Request) : Server :=
  { server with registry := (server.handle world request).registry }

end Server

end MetricGateway
