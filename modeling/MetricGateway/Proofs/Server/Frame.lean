import MetricGateway.Proofs.Client.Building
import MetricGateway.Proofs.Client.Sending
import MetricGateway.Proofs.Gateway.History
import MetricGateway.Proofs.PromQL.Compile
import MetricGateway.Proofs.Server.Course

/-!
# What a request leaves as it is

Checks come before effects. A request that is refused has sent nothing and registered nobody, and
the outside had no say in it; a query that cannot be compiled is not sent; and whatever comes of a
request, it registers one client at most, for the connection that it asks with (`framed`).
-/

namespace MetricGateway

open Success

/-! ## Queries that are not sent -/

/-- A query names a method that there is not, in whatever letter case. -/
def Query.HasUnknownMethod (query : Query) : Prop :=
  ∃ aggregation ∈ query.aggregation, ∀ method : Method,
    method.name ≠ Text.lowerCase aggregation.methodName

/-- Exactly one condition of a query says what is queried, and with a single text. -/
def Query.HasScalarSelector (query : Query) : Prop :=
  ∃ selector labels, PromQL.SelectsBy query.conditions selector labels ∧
    ∀ members, selector.value ≠ .inSet members

/-- A name that is no method's is not accepted. -/
theorem Method.ofName_eq_error {given : String}
    (h : ∀ method : Method, method.name ≠ Text.lowerCase given) :
    Method.ofName given = .error (.unsupportedAggregation given) := by
  have hnone : Method.all.find? (fun method => method.name = Text.lowerCase given) = none := by
    refine List.find?_eq_none.2 fun method _ => ?_
    rw [decide_eq_true_eq]
    exact h method
  unfold Method.ofName
  rw [hnone]

namespace Gateway

variable {world : World} {query : Query} {client : Client}

/-- With an unknown method, nothing is sent for the metric. -/
theorem requests_telemetry_of_hasUnknownMethod (h : query.HasUnknownMethod) :
    (telemetry world query client).requests = [] := by
  obtain ⟨aggregation, haggregation, hname⟩ := h
  have hmethod : Gateway.method query =
      .error (.query (.unsupportedAggregation aggregation.methodName)) := by
    have hgiven : aggregation.method = .error (.unsupportedAggregation aggregation.methodName) :=
      Method.ofName_eq_error hname
    unfold Gateway.method
    rw [Option.mem_def.1 haggregation]
    change ((some <$> aggregation.method).mapError Error.query : Except Error (Option Method)) = _
    rw [hgiven]
    rfl
  exact requests_telemetry_of_method_error hmethod

/-- Without one scalar selector, nothing is sent for the metric. -/
theorem requests_telemetry_of_not_hasScalarSelector (h : ¬query.HasScalarSelector) :
    (telemetry world query client).requests = [] := by
  cases hmethod : Gateway.method query with
  | error error => exact requests_telemetry_of_method_error hmethod
  | ok method =>
    cases hcompile : PromQL.compile query.conditions method (query.windowMillis / 1000) with
    | error error => exact requests_telemetry_of_compile_error hmethod hcompile
    | ok text => exact absurd ((PromQL.exists_compile_iff _ _ _).1 ⟨text, hcompile⟩) h

end Gateway

/-! ## The registry -/

/-- Obtaining a client leaves the registry as it is, or registers one for a base URL that had none:
that of the connection. -/
theorem Registry.registry_obtain_eq_or (registry : Registry) (world : World)
    (connection : Connection) :
    (registry.obtain world connection).registry = registry ∨
      registry.find? connection.baseUrl = none ∧ ∃ client,
        (registry.obtain world connection).registry.entries =
          registry.entries ++ [(connection.baseUrl, client)] := by
  cases hfind : registry.find? connection.baseUrl with
  | some client =>
    rw [obtain_of_find?_eq_some hfind]
    exact .inl rfl
  | none =>
    cases hbuild : (Client.build world connection).result with
    | error error => exact .inl (registry_obtain_of_error hfind hbuild)
    | ok client =>
      rw [registry_obtain_of_ok hfind hbuild]
      exact .inr ⟨rfl, client, entries_insertIfAbsent_of_find?_eq_none hfind client⟩

namespace Server

/-- Nothing came of a request but its answer, and the outside had no say in it. -/
structure Untouched (server : Server) (world : World) (request : Request) : Prop where
  registry : (server.handle world request).registry = server.registry
  requests : (server.handle world request).requests = []
  /-- With any other keys, services and backends, the same would have come of it. -/
  outside : ∀ other, server.handle other request = server.handle world request

/-- What a request leaves as it is. -/
structure Framed (server : Server) (world : World) (request : Request) : Prop where
  /-- A refusal is all that comes of a request that is refused. -/
  refused : IsRefusal (server.handle world request).answer → Untouched server world request
  /-- A query for a metric is not sent if it names an unknown method or selects no metric. -/
  unsent : ∀ asked : QueryRequest, request.method = "POST" →
    Route.ofPath request.path = some .metric → readBody QueryRequest.read request = .ok asked →
    asked.query.HasUnknownMethod ∨ ¬asked.query.HasScalarSelector →
    ∀ sent ∈ (server.handle world request).requests, ∃ token, sent = .token token
  /-- One client is registered at most: for the connection that the request asks with, and if its
  base URL had none. -/
  registered : (server.handle world request).registry = server.registry ∨
    ∃ connection client, AsksWith request connection ∧
      server.registry.find? connection.baseUrl = none ∧
      (server.handle world request).registry.entries =
        server.registry.entries ++ [(connection.baseUrl, client)]

/-- A refusal comes before anything else is done. -/
theorem untouched_of_isRefusal {server : Server} {world : World} {request : Request}
    (h : IsRefusal (server.handle world request).answer) : Untouched server world request := by
  have hrefusal : IsRefusal (dispatch server.registry world request).answer := isRefusal_withKey.1 h
  cases course server.registry request with
  | alone answer eq =>
    refine ⟨?_, ?_, fun other => ?_⟩
    · exact congrArg Handled.registry (eq world)
    · exact congrArg Handled.requests (eq world)
    · unfold handle
      rw [eq world, eq other]
  | withClient asks act answers failures eq =>
    -- No outcome reads like a refusal, so the request was not handled in this way.
    rw [eq world] at hrefusal
    unfold handledBy at hrefusal
    dsimp only at hrefusal
    split at hrefusal
    · exact absurd hrefusal (answers _)
    · exact absurd hrefusal (failures _)

/-- Whatever the server, the outside and the request are, checks come before effects. -/
theorem framed (server : Server) (world : World) (request : Request) :
    Framed server world request where
  refused := untouched_of_isRefusal
  unsent := by
    intro asked hmethod hpath hbody hquery sent hsent
    change sent ∈ (dispatch server.registry world request).requests at hsent
    rw [dispatch_metric hpath hmethod hbody] at hsent
    have hnone (client : Client) : (Gateway.telemetry world asked.query client).requests = [] :=
      hquery.elim Gateway.requests_telemetry_of_hasUnknownMethod
        Gateway.requests_telemetry_of_not_hasScalarSelector
    rcases Registry.mem_requests_withClient hsent with htoken | ⟨client, -, hact⟩
    · exact htoken
    · rw [hnone client] at hact
      cases hact
  registered := by
    cases course server.registry request with
    | alone answer eq => exact .inl (congrArg Handled.registry (eq world))
    | @withClient α connection asks act answer failed answers failures eq =>
      have hregistry : (server.handle world request).registry =
          (server.registry.obtain world connection).registry :=
        congrArg Handled.registry (eq world)
      rw [hregistry]
      rcases server.registry.registry_obtain_eq_or world connection with
        hsame | ⟨hfind, client, hentries⟩
      · exact .inl hsame
      · exact .inr ⟨connection, client, asks, hfind, hentries⟩

/-- A query for a metric with a method that there is not. -/
def medianRequest : Request where
  method := "POST"
  target := "/api/metric"
  contentType := some "application/json"
  body := Text.utf8 ("\x7b\"connectionDetails\":\x7b\"url\":\"http://prom.test\"\x7d," ++
    "\"query\":\x7b\"aggregation\":\x7b\"method\":\"Median\"\x7d\x7d\x7d")

/-- The query is not sent, and a request that does not say that it is JSON is refused. -/
theorem framed_medianRequest :
    (∀ sent ∈ (handle { apiKey := "key" } Gateway.listingWorld medianRequest).requests,
        ∃ token, sent = .token token) ∧
      Untouched { apiKey := "key" } Gateway.listingWorld
        { medianRequest with contentType := none } := by
  have hbody : readBody QueryRequest.read medianRequest =
      .ok {
        connection := { url := "http://prom.test" }
        query := { aggregation := some { methodName := "Median", bucketMillis := 10000 } } } := rfl
  have hunknown : ∀ method : Method, method.name ≠ Text.lowerCase "Median" := by
    intro method
    cases method with
    | percentile p => cases p <;> decide
    | _ => decide
  constructor
  · exact (framed _ _ _).unsent _ rfl (by decide +kernel) hbody (.inl ⟨_, rfl, hunknown⟩)
  · exact (framed _ _ _).refused (.inl ⟨.notJson, rfl, rfl⟩)

end Server

end MetricGateway
