import MetricGateway.Proofs.Client.Building
import MetricGateway.Proofs.Client.Probing
import MetricGateway.Proofs.Server.Outcome

/-!
# What the server tells of a backend

Whoever asks for a connection is told what a probe of its backend shows: that the backend is well if
the probe's status is 200, and otherwise the status of the probe and why (`examined`). The server
itself fails only if there is no client and none can be built. Which place is probed is decided by
the client that is registered, whatever settings the request brings. The server asks for this place
only; where a backend sends it from there, it goes.
-/

namespace MetricGateway.Server

open Client (Health Leads Probing)

/-! ## Reading what is told -/

/-- What is told of a backend. -/
inductive Finding where
  | well
  | unwell (details : String)
  deriving DecidableEq, Repr

namespace Finding

/-- Reads what is wrong with a backend. -/
def details? (error : Json) : Option String :=
  match error.text? "_type" with
  | some "MetricStoreConnectionError" => error.text? "details"
  | _ => none

/-- Reads what a report tells of a backend: one that is well has no error, and one that is not well
has one. -/
def ofJson? (report : Json) : Option Finding :=
  match report.text? "_type", report.text? "status", report.get? "error" with
  | some "TestConnectionResponse", some "OK", some .null => some .well
  | some "TestConnectionResponse", some "FAILURE", some error => (details? error).map unwell
  | _, _, _ => none

/-- Reads the body of an answer as a report on a backend. -/
def ofBody? (body : String) : Option Finding := (Json.parse body).toOption.bind ofJson?

/-- What a probe finds. -/
def ofHealth (health : Health) : Finding :=
  if health.status = 200 then .well else .unwell health.body

/-- The report of a finding, with its parts in the order in which they are read. -/
def report (finding : Finding) : Json :=
  let (status, error) : String × Json :=
    match finding with
    | well => ("OK", .null)
    | unwell details => ("FAILURE", .object [("_type", .string "MetricStoreConnectionError"),
        ("details", .string details)])
  .object [("_type", .string "TestConnectionResponse"), ("error", error),
    ("status", .string status)]

/-- The text of a report is read with its parts in the order of their keys. -/
theorem parse_report (status : String) {error : Json} (h : IsDetails error) :
    Json.parse (Json.object [("_type", .string "TestConnectionResponse"),
        ("status", .string status), ("error", error)]).print =
      .ok (.object [("_type", .string "TestConnectionResponse"), ("error", error),
        ("status", .string status)]) := by
  have hplain : ∀ entry ∈ [("_type", Json.string "TestConnectionResponse"),
      ("status", .string status), ("error", error)], Json.IsPlain (Json.maxDepth - 1) entry.2 := by
    refine List.forall_mem_cons.2 ⟨.string _, List.forall_mem_cons.2 ⟨.string _, ?_⟩⟩
    exact List.forall_mem_singleton.2 h
  rw [Json.parse_print_object hplain]
  have hstatus : ¬"status" < "_type" := by decide +kernel
  have herror : ¬"error" < "_type" := by decide +kernel
  have hbefore : "error" < "status" := by decide +kernel
  simp only [Json.gathered, List.foldl_cons, List.foldl_nil, Json.insertEntry, if_neg hstatus,
    if_neg herror, if_pos hbefore, String.reduceEq, if_false]

/-- What is wrong with a backend is told apart by its text. -/
theorem isDetails_connectionError (details : String) :
    IsDetails (.object [("_type", .string "MetricStoreConnectionError"),
      ("details", .string details)]) := by
  have htype : "_type" < "details" := by decide
  refine .object ?_ (List.forall_mem_cons.2 ⟨.string _, List.forall_mem_singleton.2 (.string _)⟩)
  exact List.pairwise_cons.2 ⟨List.forall_mem_singleton.2 htype, List.pairwise_singleton _ _⟩

/-- The body of an answer holds the report of what the probe finds. -/
theorem parse_healthAnswer (health : Health) :
    Json.parse (healthAnswer health).body = .ok (ofHealth health).report := by
  unfold healthAnswer ofHealth
  split
  · exact parse_report "OK" .null
  · exact parse_report "FAILURE" (isDetails_connectionError health.body)

/-- The report is read as what the probe finds, with the text of the probe as it is. -/
theorem ofBody?_healthAnswer (health : Health) :
    ofBody? (healthAnswer health).body = some (ofHealth health) := by
  unfold ofBody?
  rw [parse_healthAnswer]
  cases ofHealth health with
  | well => rfl
  | unwell details => rfl

/-- It is no report of a failure of the server. -/
theorem failure_ofBody?_healthAnswer (health : Health) :
    Failure.ofBody? (healthAnswer health).body = none := by
  unfold Failure.ofBody?
  rw [parse_healthAnswer]
  cases ofHealth health with
  | well => rfl
  | unwell details => rfl

/-- An answer about health has its status. -/
theorem status_healthAnswer (health : Health) : (healthAnswer health).status = health.status := by
  unfold healthAnswer
  split
  · next h => exact h.symm
  · rfl

end Finding

/-! ## Requests for a connection -/

/-- A request whose body is accepted asks for a connection. -/
structure AsksFor (request : Request) (connection : Connection) : Prop where
  method : request.method = "POST"
  path : Route.ofPath request.path = some .connection
  body : readBody ConnectionRequest.read request = .ok { connection }

/-- The request to a backend that a request is, if it is one. -/
def toBackend? : MetricGateway.Request → Option BackendRequest
  | .backend request => some request
  | .token _ => none

/-- What a request for a connection comes to. -/
structure Examined (server : Server) (world : World) (connection : Connection) (handled : Handled) :
    Prop where
  /-- Afterwards the base URL has the client that it had, or else the one that could be built. -/
  registered : handled.registry.find? connection.baseUrl =
    (server.registry.find? connection.baseUrl).or (Client.build world connection).result.toOption
  /-- If it has none, the server fails with what went wrong when the client was built. No backend is
  asked, and nothing is registered. -/
  unbuilt : handled.registry.find? connection.baseUrl = none →
    ∃ error, (Client.build world connection).result = .error error ∧
      handled.answer.status = 500 ∧
      Failure.ofBody? handled.answer.body =
        some (.remote "Internal server error." (.object [("message", .string error.message)])) ∧
      handled.requests.filterMap toBackend? = [] ∧ handled.followed = [] ∧
      handled.registry = server.registry
  /-- If it has one, this one probes the backend with one request at most, and the answer tells what
  the probe shows: its status, that the backend is well if the status is 200, and otherwise why it
  is not. -/
  probed : ∀ client, handled.registry.find? connection.baseUrl = some client →
    ∃ asked health, Probing client world asked handled.followed health ∧
      handled.requests.filterMap toBackend? = asked.toList ∧
      handled.answer.status = health.status ∧
      Finding.ofBody? handled.answer.body =
        some (if health.status = 200 then .well else .unwell health.body)
  /-- Then the server does not fail itself: a failure of a server is one that the last answer to the
  probe reports. -/
  sound : ∀ client, handled.registry.find? connection.baseUrl = some client →
    Failure.ofBody? handled.answer.body = none ∧
      (handled.answer.status = 500 → ∃ request last hop reply,
        .backend request ∈ handled.requests ∧
        Leads client world request handled.followed last hop ∧
        hop.delivery = .complete reply ∧ reply.status = 500)
  /-- No other URL is asked for, unless an answer to the probe is a redirect to it. -/
  unled : (∀ t n request, (world.backend t n request).location = none) → handled.followed = []
  /-- The labels are asked for if the client signs, and the health otherwise. -/
  place : ∀ client (base : Url.Base), handled.registry.find? connection.baseUrl = some client →
    client.baseUrl.toList = base.text → ∀ request, .backend request ∈ handled.requests →
      request.url.toList = base.origin ++ Path.written (base.segments ++
        if client.signer.isSome then ["api".toList, "v1".toList, "labels".toList]
        else ["-".toList, "healthy".toList])
  /-- With a client that is registered already, nothing depends on what else the request says of the
  connection. -/
  settings : ∀ client other otherRequest,
    server.registry.find? connection.baseUrl = some client → AsksFor otherRequest other →
      other.baseUrl = connection.baseUrl → server.handle world otherRequest = handled

section

variable {server : Server} {world : World} {request : Request} {connection : Connection}

/-- A request for a connection is handled by probing its backend. -/
theorem handle_of_asksFor (h : AsksFor request connection) :
    server.handle world request =
      let probed := handledBy (Gateway.probe server.registry world connection) healthAnswer
        fun error => failed error.message
      { probed with answer := withKey server.apiKey probed.answer } := by
  have hdispatch : dispatch server.registry world request =
      handleConnection server.registry world { connection } :=
    (dispatch_of_post h.path (by decide) h.method).trans (handleBody_of_ok h.body _)
  unfold handle
  rw [hdispatch]
  rfl

/-- Who obtains a client asks no backend. -/
theorem filterMap_requests_obtain (registry : Registry) (world : World) (connection : Connection) :
    (registry.obtain world connection).exchange.requests.filterMap toBackend? = [] := by
  rw [List.filterMap_eq_nil_iff]
  intro request hrequest
  obtain ⟨asked, rfl⟩ := Registry.exists_token_of_mem_obtain hrequest
  rfl

/-- The requests to a backend are those among all requests. -/
theorem mem_filterMap_toBackend? {requests : List MetricGateway.Request}
    {request : BackendRequest} :
    request ∈ requests.filterMap toBackend? ↔ .backend request ∈ requests := by
  rw [List.mem_filterMap]
  constructor
  · rintro ⟨sent, hsent, hrequest⟩
    cases sent with
    | token asked => cases hrequest
    | backend asked =>
      cases hrequest
      exact hsent
  · exact fun h => ⟨_, h, rfl⟩

/-- Of requests to a backend only, all are taken. -/
theorem filterMap_map_backend (requests : List BackendRequest) :
    (requests.map MetricGateway.Request.backend).filterMap toBackend? = requests := by
  rw [List.filterMap_map]
  exact List.filterMap_some

/-- Without a client that could be obtained, the server fails. -/
theorem handle_of_obtain_error (h : AsksFor request connection) {error : Error}
    (hobtain : (server.registry.obtain world connection).exchange.result = .error error) :
    (server.handle world request).answer = withKey server.apiKey (failed error.message) ∧
      (server.handle world request).requests =
        (server.registry.obtain world connection).exchange.requests ∧
      (server.handle world request).followed = [] := by
  have hresult : (Gateway.probe server.registry world connection).exchange.result =
      .error error := by
    change ((server.registry.obtain world connection).exchange >>= _).result = _
    rw [Exchange.result_bind, hobtain]
    rfl
  rw [handle_of_asksFor h]
  unfold handledBy
  dsimp only
  rw [hresult]
  exact ⟨rfl, Exchange.requests_bind_of_error hobtain,
    (Exchange.followed_bind_of_error hobtain).trans (Registry.followed_obtain _ _ _)⟩

/-- With a client, the server tells what the probe shows. -/
theorem handle_of_obtain_ok (h : AsksFor request connection) {client : Client}
    (hobtain : (server.registry.obtain world connection).exchange.result = .ok client)
    {health : Health} {requests : List MetricGateway.Request} {followed : List BackendRequest}
    (hprobe : client.probe world = { result := .ok health, requests, followed }) :
    (server.handle world request).answer = withKey server.apiKey (healthAnswer health) ∧
      (server.handle world request).requests =
        (server.registry.obtain world connection).exchange.requests ++ requests ∧
      (server.handle world request).followed = followed := by
  have hresult : (Gateway.probe server.registry world connection).exchange.result =
      .ok health := by
    change ((server.registry.obtain world connection).exchange >>= fun client =>
      client.probe world).result = _
    rw [Exchange.result_bind, hobtain, Success.ok_bind, hprobe]
  rw [handle_of_asksFor h]
  unfold handledBy
  dsimp only
  rw [hresult]
  refine ⟨rfl, (Exchange.requests_bind_of_ok hobtain).trans ?_,
    (Exchange.followed_bind_of_ok hobtain).trans ?_⟩
  · rw [hprobe]
  · rw [hprobe, Registry.followed_obtain, List.nil_append]

/-- Handling a request leaves the registry as obtaining the client does. -/
theorem registry_handle (h : AsksFor request connection) :
    (server.handle world request).registry =
      (server.registry.obtain world connection).registry := by
  rw [handle_of_asksFor h]
  rfl

/-- Whoever is registered afterwards was obtained and has probed the backend, and the answer tells
what the probe shows. -/
theorem exists_probing_handle (h : AsksFor request connection) {client : Client}
    (hfind : (server.handle world request).registry.find? connection.baseUrl = some client) :
    ∃ asked health, Probing client world asked (server.handle world request).followed health ∧
      (server.handle world request).requests.filterMap toBackend? = asked.toList ∧
      (server.handle world request).answer = withKey server.apiKey (healthAnswer health) := by
  rw [registry_handle h] at hfind
  obtain ⟨asked, followed, health, hprobe, hprobing⟩ := client.probing world
  obtain ⟨hanswer, hrequests, hfollowed⟩ :=
    handle_of_obtain_ok h (Registry.result_obtain_of_find? hfind) hprobe
  refine ⟨asked, health, hfollowed ▸ hprobing, ?_, hanswer⟩
  rw [hrequests, List.filterMap_append, filterMap_requests_obtain, filterMap_map_backend]
  rfl

/-- Where no answer is a redirect, none is followed. -/
theorem followed_handle_eq_nil (h : AsksFor request connection)
    (hnone : ∀ t n request, (world.backend t n request).location = none) :
    (server.handle world request).followed = [] := by
  cases hfind : (server.handle world request).registry.find? connection.baseUrl with
  | none =>
    rw [registry_handle h] at hfind
    obtain ⟨error, -, hobtain, -⟩ := Registry.exists_error_of_find?_registry_obtain hfind
    exact (handle_of_obtain_error h hobtain).2.2
  | some client =>
    obtain ⟨asked, health, hprobing, -⟩ := exists_probing_handle h hfind
    obtain ⟨-, hfollowed⟩ | ⟨asked, last, hop, -, hleads⟩ := hprobing.leads
    · exact hfollowed
    · obtain ⟨url, headers, -, -, htrail⟩ := hleads.exists_trail
      exact htrail.eq_nil fun n request => hnone client.timeoutSeconds n request

end

/-- A client that does not sign. -/
def plainClient : Client where
  baseUrl := "http://prom.test"
  timeoutSeconds := 30
  nanPolicy := .zero
  signer := none

/-- A server that knows this client. -/
def plainServer : Server where
  apiKey := "key"
  registry := { entries := [("http://prom.test", plainClient)] }

/-- An outside where the backend is down. -/
def downWorld : World :=
  .still (.complete { status := 503, contentType := "text/plain", body := Text.utf8 "down" }) 0

/-- A connection with keys to sign with. -/
def keysConnection : Connection where
  url := "http://prom.test/"
  aws := some {
    accessKeyId := some "AKID"
    secretAccessKey := some "SECRET"
    sessionToken := some "TOKEN"
    regionName := AwsSettings.defaultRegion
    roleSessionName := AwsSettings.defaultSessionName }

/-- A request for this connection. -/
def keysRequest : Request where
  method := "POST"
  target := "/api/connection"
  contentType := some "application/json"
  body := Text.utf8 ("\x7b\"connectionDetails\":\x7b\"url\":\"http://prom.test/\",\"aws\":\x7b" ++
    "\"aws_access_key_id\":\"AKID\",\"aws_secret_access_key\":\"SECRET\"," ++
    "\"aws_session_token\":\"TOKEN\"\x7d\x7d\x7d")

end MetricGateway.Server
