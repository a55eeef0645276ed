import MetricGateway.Proofs.Gateway.History
import MetricGateway.Proofs.Gateway.NotFound
import MetricGateway.Proofs.Server.Reading
import MetricGateway.Proofs.Server.RoundTrip

/-!
# What the endpoints for queries tell

The three endpoints that take a query do the same with it: they report what the gateway has made of
the query, or why there is nothing to report (`answer_dispatch`). So they have two statuses to
answer with, and each answer can be read as what came of the query (`tells`). The report that a
metric is not found is kept for two errors of the endpoint for metrics, and no other error is
reported in this way.
-/

namespace MetricGateway.Server

/-! ## Outcomes -/

/-- The endpoints that take a query. -/
inductive Endpoint where
  | metric
  | fieldNames
  | fieldValues
  deriving DecidableEq

/-- Why there is nothing to report. -/
inductive Obstacle where
  /-- The body is not accepted. -/
  | body (rejection : Rejection)
  /-- The query names no field although it has to. -/
  | noField
  /-- The operation of the gateway that the query asks for fails. -/
  | gateway (query : Query) (error : Error)

/-- The gateway says that no metric is found. -/
def Obstacle.IsNotFound (obstacle : Obstacle) : Prop :=
  ∃ query error, obstacle = .gateway query error ∧ error.IsNotFound

namespace Endpoint

/-- The route that leads to an endpoint. -/
def route : Endpoint → Route
  | metric => .metric
  | fieldNames => .fieldNames
  | fieldValues => .fieldValues

/-- What the gateway makes of a query. -/
def ask (registry : Registry) (world : World) (asked : QueryRequest) :
    Endpoint → Except Obstacle Product
  | metric =>
    ((Gateway.fetchMetric registry world asked.connection asked.query).exchange.result.map
      Product.points).mapError (.gateway asked.query)
  | fieldNames =>
    ((Gateway.fieldNames registry world asked.connection asked.query.limit).exchange.result.map
      Product.names).mapError (.gateway asked.query)
  | fieldValues =>
    match asked.query.field with
    | none => .error .noField
    | some field =>
      ((Gateway.fieldValues registry world asked.connection field.name asked.query.valueStart
        asked.query.effectiveOffset asked.query.limit).exchange.result.map
          Product.values).mapError (.gateway asked.query)

/-- What comes of a request, if its body is accepted. -/
def outcome (registry : Registry) (world : World) (request : Request) (endpoint : Endpoint) :
    Except Obstacle Product :=
  match readBody QueryRequest.read request with
  | .ok asked => endpoint.ask registry world asked
  | .error rejection => .error (.body rejection)

/-- How an endpoint reports that the gateway fails. -/
def failed : Endpoint → Query → Error → Answer
  | metric => metricFailed
  | _ => fun _ error => Server.failed error.message

/-- How an endpoint reports an outcome. -/
def answer (endpoint : Endpoint) : Except Obstacle Product → Answer
  | .ok product => .json 200 product.report
  | .error (.body rejection) => rejected rejection
  | .error .noField => Server.failed fieldRequired
  | .error (.gateway query error) => endpoint.failed query error

variable {registry : Registry} {world : World} {request : Request} {endpoint : Endpoint}

/-- A step is answered by reporting what it results in. -/
theorem answer_handledBy {α : Type} (endpoint : Endpoint) (query : Query) (step : Step α)
    (product : α → Product) :
    (handledBy step (fun value => .json 200 (product value).report)
      (endpoint.failed query)).answer =
      endpoint.answer ((step.exchange.result.map product).mapError (.gateway query)) := by
  unfold handledBy
  dsimp only
  cases step.exchange.result with
  | error error => rfl
  | ok value => rfl

/-- An endpoint reports what comes of a request. -/
theorem answer_dispatch (hmethod : request.method = "POST")
    (hpath : Route.ofPath request.path = some endpoint.route) :
    (dispatch registry world request).answer =
      endpoint.answer (endpoint.outcome registry world request) := by
  have hroute : endpoint.route ≠ .root := by cases endpoint <;> decide
  rw [dispatch_of_post hpath hroute hmethod]
  unfold outcome
  cases hbody : readBody QueryRequest.read request with
  | error rejection =>
    cases endpoint with
    | metric => exact congrArg Handled.answer (handleBody_of_error hbody _)
    | fieldNames => exact congrArg Handled.answer (handleBody_of_error hbody _)
    | fieldValues => exact congrArg Handled.answer (handleBody_of_error hbody _)
  | ok asked =>
    cases endpoint with
    | metric =>
      refine (congrArg Handled.answer (handleBody_of_ok hbody _)).trans ?_
      exact answer_handledBy .metric asked.query _ .points
    | fieldNames =>
      refine (congrArg Handled.answer (handleBody_of_ok hbody _)).trans ?_
      exact answer_handledBy .fieldNames asked.query _ .names
    | fieldValues =>
      refine (congrArg Handled.answer (handleBody_of_ok hbody _)).trans ?_
      -- A query for values without a field fails before anything is asked.
      unfold handleFieldValues ask
      dsimp only
      cases asked.query.field with
      | none => rfl
      | some field => exact answer_handledBy .fieldValues asked.query _ .values

end Endpoint

/-! ## Answers -/

/-- The key leaves the status and the body of an answer alone. -/
theorem status_withKey (apiKey : String) (answer : Answer) :
    (withKey apiKey answer).status = answer.status := by
  unfold withKey
  split <;> rfl

/-- The key leaves the body of an answer as it is. -/
theorem body_withKey (apiKey : String) (answer : Answer) :
    (withKey apiKey answer).body = answer.body := by
  unfold withKey
  split <;> rfl

namespace Endpoint

/-- The report of a failure of the gateway has the status of a failure. -/
theorem status_failed (endpoint : Endpoint) (query : Query) (error : Error) :
    (endpoint.failed query error).status = 500 := by
  cases endpoint with
  | metric =>
    change (metricFailed query error).status = 500
    unfold metricFailed
    split <;> rfl
  | fieldNames => rfl
  | fieldValues => rfl

/-- A result is told with a success, and an obstacle with a failure. -/
theorem status_answer (endpoint : Endpoint) (outcome : Except Obstacle Product) :
    (∃ product, outcome = .ok product) ∧ (endpoint.answer outcome).status = 200 ∨
      (∃ obstacle, outcome = .error obstacle) ∧ (endpoint.answer outcome).status = 500 := by
  cases outcome with
  | ok product => exact .inl ⟨⟨product, rfl⟩, rfl⟩
  | error obstacle =>
    refine .inr ⟨⟨obstacle, rfl⟩, ?_⟩
    cases obstacle with
    | body rejection => rfl
    | noField => rfl
    | gateway query error => exact endpoint.status_failed query error

/-- An error that does not say that a metric is not found is reported as any other failure. -/
theorem exists_remote_of_metricFailed (query : Query) {error : Error} (h : ¬error.IsNotFound) :
    ∃ summary details, Failure.ofBody? (metricFailed query error).body =
      some (.remote summary details) := by
  have hunexpected (message : String) : ∃ summary details,
      Failure.ofBody? (failure "Unexpected error." (.string message)).body =
        some (.remote summary details) :=
    ⟨_, _, Failure.ofBody?_failure _ (isDetails_string message)⟩
  cases error with
  | query cause =>
    cases cause with
    | requiredSelector message => exact absurd (.inl ⟨message, rfl⟩) h
    | unsupportedAggregation method =>
      exact ⟨_, _, Failure.ofBody?_failure _ (isDetails_string method)⟩
  | response cause =>
    cases cause with
    | metricNotFound text => exact absurd (.inr ⟨text, rfl⟩) h
    | ambiguousMetric fields => exact ⟨_, _, Failure.ofBody?_failure _ (isDetails_strings fields)⟩
    | invalidPayload details => exact ⟨_, _, Failure.ofBody?_failure _ (isDetails_string details)⟩
    | backend payload => exact ⟨_, _, Failure.ofBody?_failure _ (isDetails_string payload)⟩
  | transport cause => exact hunexpected _
  | credential cause => exact hunexpected _
  | signing => exact hunexpected _
  | configuration cause => exact hunexpected _

/-- Unless the endpoint for metrics is told that no metric is found, an obstacle is reported as any
other failure. -/
theorem exists_remote_of_obstacle {endpoint : Endpoint} {obstacle : Obstacle}
    (h : ¬(endpoint = .metric ∧ obstacle.IsNotFound)) :
    ∃ summary details, Failure.ofBody? (endpoint.answer (.error obstacle)).body =
      some (.remote summary details) := by
  have hmessage (message : String) : ∃ summary details,
      Failure.ofBody? (Server.failed message).body = some (.remote summary details) :=
    ⟨_, _, Failure.ofBody?_failure _ (isDetails_entry _ message)⟩
  cases obstacle with
  | body rejection => exact ⟨_, _, Failure.ofBody?_failure _ (isDetails_entry _ rejection.message)⟩
  | noField => exact hmessage fieldRequired
  | gateway query error =>
    cases endpoint with
    | metric =>
      exact exists_remote_of_metricFailed query fun hnot => h ⟨rfl, query, error, rfl, hnot⟩
    | fieldNames => exact hmessage error.message
    | fieldValues => exact hmessage error.message

/-- An error of the endpoint for metrics is one of the gateway for its query. -/
theorem fetchMetric_of_outcome {registry : Registry} {world : World} {request : Request}
    {query : Query} {error : Error}
    (h : metric.outcome registry world request = .error (.gateway query error)) :
    ∃ connection, (Gateway.fetchMetric registry world connection query).exchange.result =
      .error error := by
  unfold outcome at h
  split at h
  · next asked hbody =>
    obtain ⟨cause, hmap, hcause⟩ := Success.mapError_eq_error_iff.1 h
    cases hcause
    refine ⟨asked.connection, ?_⟩
    cases hfetch : (Gateway.fetchMetric registry world asked.connection
        asked.query).exchange.result with
    | ok telemetry =>
      rw [hfetch] at hmap
      cases hmap
    | error other =>
      rw [hfetch] at hmap
      obtain rfl : other = error := Except.error.inj hmap
      rfl
  · cases h

end Endpoint

/-- How the answer of an endpoint tells an outcome. -/
structure Tells (endpoint : Endpoint) (outcome : Except Obstacle Product) (answer : Answer) :
    Prop where
  /-- No other status is answered, whatever the status of the backend is. -/
  status : answer.status = 200 ∨ answer.status = 500
  /-- A success is answered if and only if there is something to report. -/
  ok_iff : answer.status = 200 ↔ ∃ product, outcome = .ok product
  /-- The body is the text of the report, from which all that is reported can be read. -/
  report : ∀ product, outcome = .ok product →
    answer.body = product.report.print ∧ Product.ofReport? product.report = some product
  /-- For a query that selects no metric, the text of the query is reported, with the message. -/
  selector : ∀ query message, endpoint = .metric →
    outcome = .error (.gateway query (.query (.requiredSelector message))) →
    Failure.ofBody? answer.body = some (.metricNotFound query.toJson.print (some message))
  /-- For a metric that the backend does not have, the text into which the query was compiled is
  reported. -/
  missing : ∀ query text, endpoint = .metric →
    outcome = .error (.gateway query (.response (.metricNotFound text))) →
    Failure.ofBody? answer.body = some (.metricNotFound text none) ∧
      ∃ method, Gateway.method query = .ok method ∧
        PromQL.compile query.conditions method (query.windowMillis / 1000) = .ok text
  /-- Whatever else the obstacle is, the report is that of any other failure. -/
  remote : ∀ obstacle, outcome = .error obstacle → ¬(endpoint = .metric ∧ obstacle.IsNotFound) →
    ∃ summary details, Failure.ofBody? answer.body = some (.remote summary details)

/-- Whatever is posted to an endpoint for queries, and whatever the outside does, the answer tells
what came of it. -/
theorem tells (server : Server) (world : World) (endpoint : Endpoint) {request : Request}
    (hmethod : request.method = "POST")
    (hpath : Route.ofPath request.path = some endpoint.route) :
    Tells endpoint (endpoint.outcome server.registry world request)
      (server.handle world request).answer := by
  have hanswer : (dispatch server.registry world request).answer =
      endpoint.answer (endpoint.outcome server.registry world request) :=
    Endpoint.answer_dispatch hmethod hpath
  have hstatus : (server.handle world request).answer.status =
      (endpoint.answer (endpoint.outcome server.registry world request)).status :=
    (status_withKey _ _).trans (congrArg Answer.status hanswer)
  have hbody : (server.handle world request).answer.body =
      (endpoint.answer (endpoint.outcome server.registry world request)).body :=
    (body_withKey _ _).trans (congrArg Answer.body hanswer)
  have hcases := endpoint.status_answer (endpoint.outcome server.registry world request)
  constructor
  case status =>
    rw [hstatus]
    exact hcases.imp And.right And.right
  case ok_iff =>
    rw [hstatus]
    constructor
    · intro h
      rcases hcases with ⟨hproduct, -⟩ | ⟨-, hfailed⟩
      · exact hproduct
      · exact absurd (h.symm.trans hfailed) (by decide)
    · rintro ⟨product, hproduct⟩
      rw [hproduct]
      rfl
  case report =>
    intro product hproduct
    rw [hbody, hproduct]
    exact ⟨rfl, product.ofReport?_report⟩
  case selector =>
    rintro query message rfl hobstacle
    rw [hbody, hobstacle]
    exact Failure.ofBody?_metricNotFound _ (some message)
  case missing =>
    rintro query text rfl hobstacle
    obtain ⟨connection, hfetch⟩ := Endpoint.fetchMetric_of_outcome hobstacle
    rw [hbody, hobstacle]
    exact ⟨Failure.ofBody?_metricNotFound text none, Gateway.compile_of_notFound hfetch⟩
  case remote =>
    intro obstacle hobstacle hnot
    rw [hbody, hobstacle]
    exact Endpoint.exists_remote_of_obstacle hnot

/-- A request for the names of fields, with a query in which everything is left out. -/
def namesRequest : Request :=
  { bareRequest with
    target := "/api/field/name"
    body := Text.utf8
      "\x7b\"connectionDetails\":\x7b\"url\":\"http://prom.test\"\x7d,\"query\":\x7b\x7d\x7d" }

/-- The names that the backend lists are told, and a query that selects no metric is told with its
text. -/
theorem tells_bareRequest :
    (handle { apiKey := "key" } Gateway.listingWorld namesRequest).answer.body =
        (namesJson
          { isPartial := false, values := ["__counter__", "__gauge__", "~", "job"] }).print ∧
      ∃ message,
        Failure.ofBody? (handle { apiKey := "key" } Gateway.listingWorld bareRequest).answer.body =
          some (.metricNotFound bareQuery.toJson.print (some message)) := by
  have hbody : readBody QueryRequest.read namesRequest =
      .ok { connection := { url := "http://prom.test" }, query := {} } := rfl
  have hpage : (Gateway.fieldNames .empty Gateway.listingWorld { url := "http://prom.test" }
      1000).exchange.result =
        .ok { isPartial := false, values := ["__counter__", "__gauge__", "~", "job"] } := by
    decide +kernel
  have houtcome : Endpoint.fieldNames.outcome .empty Gateway.listingWorld namesRequest =
      .ok (.names { isPartial := false, values := ["__counter__", "__gauge__", "~", "job"] }) := by
    unfold Endpoint.outcome
    rw [hbody]
    dsimp only [Endpoint.ask]
    rw [hpage]
    rfl
  have hnames : Tells .fieldNames _ (handle _ _ namesRequest).answer :=
    tells { apiKey := "key" } Gateway.listingWorld .fieldNames rfl (by decide +kernel)
  have hbare : Tells .metric _ (handle _ _ bareRequest).answer :=
    tells { apiKey := "key" } Gateway.listingWorld .metric rfl (by decide +kernel)
  exact ⟨(hnames.report _ houtcome).1, _, hbare.selector bareQuery _ rfl rfl⟩

end MetricGateway.Server
