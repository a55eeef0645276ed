import MetricGateway.Proofs.Gateway.History
import MetricGateway.Proofs.Query
import MetricGateway.Proofs.Server.Course

/-!
# What is written down can be read again

Queries and connections come back from their texts, whatever their texts, numbers and optional parts
are (`requests_roundTrip`). So the query that is reported when a metric is not selected is the very
query that was asked.
-/

namespace MetricGateway.Server

open Json Success

/-- The numbers of a request in a body that is accepted fit words. -/
theorem fitsWords_of_readBody {request : Request} {asked : QueryRequest}
    (h : readBody QueryRequest.read request = .ok asked) : asked.FitsWords := by
  unfold readBody at h
  split at h
  · cases h
  split at h
  · cases h
  dsimp only at h
  split at h
  · next hread =>
    obtain rfl := Except.ok.inj h
    exact QueryRequest.yields_fitsWords hread
  · cases h

/-- The report that a metric is not found is read as it is printed. -/
theorem parse_metricNotFound (metric message : String) :
    parse (metricNotFound metric (.string message)).body =
      .ok (.object [("_type", .string "MetricNotFoundError"), ("details", .string message),
        ("metric", .string metric)]) :=
  parse_print (isPlain_detailed "MetricNotFoundError" metric (by decide) (isDetails_string message))

/-- An answer reports a query as the one whose metric is not selected. -/
structure Reports (answer : Answer) (message : String) (query : Query) : Prop where
  status : answer.status = 500
  /-- The report holds a text, and the text is read as the query. -/
  body : ∃ text, parse answer.body =
      .ok (.object [("_type", .string "MetricNotFoundError"), ("details", .string message),
        ("metric", .string text)]) ∧
    readDocument Query.read text = .ok query

/-- What is written down for requests can be read again. -/
structure RoundTrip : Prop where
  /-- A query comes back from its text, unless a condition compares with a number. -/
  query : ∀ query : Query, query.FitsWords → query.HasNoDouble →
    readDocument Query.read query.toJson.print = .ok query
  /-- A connection comes back from its text. -/
  connection : ∀ connection : Connection, connection.FitsWords →
    readDocument Connection.read connection.toJson.print = .ok connection
  /-- The numbers of a query that was read fit words, whatever it was read from. -/
  query_read : Yields Query.read Query.FitsWords
  /-- The numbers of a connection that was read fit words. -/
  connection_read : Yields Connection.read Connection.FitsWords
  /-- If the metric of a query that was asked is not selected, the answer reports this query. -/
  reported : ∀ (server : Server) (world : World) (request : Request) (asked : QueryRequest)
    (message : String), request.method = "POST" → Route.ofPath request.path = some .metric →
      readBody QueryRequest.read request = .ok asked → asked.query.HasNoDouble →
      (Gateway.fetchMetric server.registry world asked.connection asked.query).exchange.result =
        .error (.query (.requiredSelector message)) →
      Reports (server.handle world request).answer message asked.query

/-- A query comes back from its text. -/
theorem readDocument_query {query : Query} (hfits : query.FitsWords) (hdouble : query.HasNoDouble) :
    readDocument Query.read query.toJson.print = .ok query :=
  (Query.reads_toJson hfits hdouble).readDocument_eq (by decide)

/-- What is written down for requests can be read again. -/
theorem requests_roundTrip : RoundTrip where
  query _ hfits hdouble := readDocument_query hfits hdouble
  connection _ hfits := (Connection.reads_toJson hfits).readDocument_eq (by decide)
  query_read := Query.yields_fitsWords
  connection_read := Connection.yields_fitsWords
  reported server world request asked message hmethod hpath hbody hdouble hfetch := by
    have hanswer : (dispatch server.registry world request).answer =
        metricNotFound asked.query.toJson.print (.string message) := by
      rw [dispatch_metric hpath hmethod hbody]
      unfold handleMetric handledBy
      dsimp only
      rw [hfetch]
      rfl
    have hkey : (server.handle world request).answer.status = 500 ∧
        (server.handle world request).answer.body =
          (metricNotFound asked.query.toJson.print (.string message)).body := by
      unfold handle withKey
      dsimp only
      rw [hanswer]
      split <;> exact ⟨rfl, rfl⟩
    refine ⟨hkey.1, asked.query.toJson.print, ?_, ?_⟩
    · rw [hkey.2]
      exact parse_metricNotFound _ message
    · exact readDocument_query (fitsWords_of_readBody hbody).query hdouble

/-- A query for a metric that no condition selects, with a null for the start of values. -/
def bareRequest : Request where
  method := "POST"
  target := "/api/metric"
  contentType := some "application/json"
  body := Text.utf8 ("\x7b\"connectionDetails\":\x7b\"url\":\"http://prom.test\"\x7d," ++
    "\"query\":\x7b\"fieldValuePrefix\":null,\"endTime\":5\x7d\x7d")

/-- The query that is asked by it. -/
def bareQuery : Query where
  endMillis := 5
  valueStart := none

/-- The answer reports the query, whose null stays null. -/
theorem requests_roundTrip_bareRequest :
    ∃ message, Reports (handle { apiKey := "key" } Gateway.listingWorld bareRequest).answer message
      bareQuery := by
  have hbody : readBody QueryRequest.read bareRequest =
      .ok { connection := { url := "http://prom.test" }, query := bareQuery } := rfl
  exact ⟨_, requests_roundTrip.reported _ _ _ _ _ rfl (by decide +kernel) hbody nofun rfl⟩

end MetricGateway.Server
