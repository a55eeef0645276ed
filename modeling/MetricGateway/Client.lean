import MetricGateway.Backend
import MetricGateway.Credentials
import MetricGateway.Page
import MetricGateway.Payload
import MetricGateway.PromQL

/-!
# Clients

A client calls one backend. How it signs its requests and what becomes of samples that are not a
number is fixed when it is built.
-/

namespace MetricGateway

/-- Who calls one backend. -/
structure Client where
  baseUrl : String
  timeoutSeconds : Nat
  nanPolicy : NanPolicy
  /-- Who signs the requests, if they are signed. -/
  signer : Option Signer
  deriving DecidableEq, Repr

namespace Client

/-- Whether the requests of a client are signed. -/
def isSigned (client : Client) : Bool := client.signer.isSome

/-- The signer that settings ask for. -/
def buildSigner (world : World) : Option AwsSettings → Exchange (Option Signer)
  | none => pure none
  | some aws => do
    let credentials ← resolveCredentials world aws
    pure (some { credentials, region := aws.regionName })

/-- The HTTP client over which requests are sent. There is nothing to know of it but whether it can
be built. -/
def buildSender (world : World) : Except Error Unit :=
  match world.clientFault with
  | some cause => .error (.transport (.noClient cause))
  | none => .ok ()

/-- Builds the client for a connection. -/
def build (world : World) (connection : Connection) : Exchange Client := do
  let signer ← buildSigner world connection.aws
  (buildSender world : Except Error Unit)
  pure {
    baseUrl := connection.baseUrl
    timeoutSeconds := connection.timeoutSeconds
    nanPolicy := connection.nanPolicy
    signer }

/-- The place that shows whether a backend is well. -/
def healthPlace : String := "-/healthy"

/-- The place that lists the names of labels. -/
def labelsPlace : String := "api/v1/labels"

/-- The place that answers queries over a range of time. -/
def rangePlace : String := "api/v1/query_range"

/-- The place that lists the values of a label. -/
def valuesPlace (label : String) : String := "api/v1/label/" ++ label ++ "/values"

/-- The URL of a place of the backend, with pairs in its query. -/
def url (client : Client) (place : String) (pairs : List (String × String)) : Except Error Url :=
  match Url.read (client.baseUrl ++ "/" ++ place) with
  | .ok url => .ok (url.addPairs pairs)
  | .error cause => .error (.configuration (.url client.baseUrl cause))

/-- The headers that make a request to a URL a signed one, if the client signs. -/
def signatureHeaders (client : Client) (seconds : Nat) (url : Url) :
    Except Error (List Header) :=
  match client.signer with
  | some signer => signer.sign seconds "GET" url.render
  | none => .ok []

/-- Asks a place of the backend. -/
def get (client : Client) (world : World) (place : String) (pairs : List (String × String)) :
    Exchange Response := do
  let url ← client.url place pairs
  let headers ← client.signatureHeaders world.seconds url
  Backend.send world client.timeoutSeconds url headers

/-- The status that stands for a backend that cannot be reached. -/
def unreachableStatus : Nat := 502

/-- What a probe of the backend shows. -/
structure Health where
  status : Nat
  body : String
  deriving DecidableEq, Repr

/-- What a probe shows if it fails with a message. -/
def Health.failed (message : String) : Health := { status := unreachableStatus, body := message }

/-- What a response to a probe shows. -/
def Health.ofResponse (response : Response) : Health :=
  match response.body with
  | .ok body => { status := response.status, body }
  | .error cause => .failed cause.message

/-- What the outcome of the request of a probe shows. -/
def Health.ofResult : Except Error Response → Health
  | .ok response => .ofResponse response
  | .error error => .failed error.message

/-- The place that is asked to probe the backend. Managed workspaces do not say whether they are
well, so a client that signs asks for labels. -/
def probePlace (client : Client) : String := if client.isSigned then labelsPlace else healthPlace

/-- Probes the backend. A probe never fails: that the backend cannot be reached is what it
shows. -/
def probe (client : Client) (world : World) : Exchange Health :=
  let exchange := client.get world client.probePlace []
  { exchange with result := .ok (.ofResult exchange.result) }

/-- The error that a payload reports. -/
def reportedError? (body : String) : Option Error :=
  match Json.parse body with
  | .ok payload =>
    if Payload.isError payload then some (.response (.backend payload.print)) else none
  | .error _ => none

/-- The body of a successful response. -/
def successfulBody (response : Response) : Except Error String := do
  let body ← response.body.mapError Error.transport
  if isSuccess response.status then pure body
  else
    match reportedError? body with
    | some error => throw error
    | none => throw (.transport (.refused response.url response.status body))

/-- The payload that a body holds. -/
def readPayload (body : String) : Except Error Json :=
  (Json.parse body).mapError fun fault => .response (.invalidPayload fault.cause.message)

/-- Asks a place of the backend for a payload. -/
def getPayload (client : Client) (world : World) (place : String)
    (pairs : List (String × String)) : Exchange Json := do
  let response ← client.get world place pairs
  let body ← (successfulBody response : Except Error String)
  (readPayload body : Except Error Json)

/-- Asks a place of the backend for a listing. -/
def getListing (client : Client) (world : World) (place : String) : Exchange (List String) := do
  let payload ← client.getPayload world place []
  ((Payload.listTexts payload).mapError Error.response : Except Error (List String))

/-- The names of labels. -/
def labels (client : Client) (world : World) (limit : Nat) : Exchange Page := do
  let names ← client.getListing world labelsPlace
  pure (Page.ofLabels names limit)

/-- A page of the values of a label that begin with a text, if one is given. -/
def labelValues (client : Client) (world : World) (label : String) (start : Option String)
    (offset limit : Nat) : Exchange Page := do
  let values ← client.getListing world (valuesPlace label)
  pure (Page.ofValues values start offset limit)

/-- What is asked of the one series that conditions select. -/
structure RangeQuery where
  conditions : List Condition
  /-- The start of the range of time, in seconds. -/
  start : Nat
  /-- The end of the range of time, in seconds. -/
  stop : Nat
  method : Option Method := none
  /-- The window of the method and the step of the query, in seconds. -/
  window : Nat := 30
  /-- How many samples are wanted at most. -/
  limit : Option Nat := none

/-- The pairs in which a query text is sent. -/
def RangeQuery.pairs (query : RangeQuery) (text : String) : List (String × String) :=
  [("query", text), ("start", toString query.start), ("end", toString query.stop),
    ("step", toString query.window)]

/-- The first elements of a list, or all of them without a limit. -/
def takeUpTo {α : Type} (limit : Option Nat) (list : List α) : List α :=
  match limit with
  | some count => list.take count
  | none => list

/-- The samples of the one series that conditions select. -/
def samples (client : Client) (world : World) (query : RangeQuery) : Exchange (List Sample) := do
  let text ← ((PromQL.compile query.conditions query.method query.window).mapError Error.query :
    Except Error String)
  let payload ← client.getPayload world rangePlace (query.pairs text)
  let all ← ((Payload.rangeSamples text payload).mapError Error.response :
    Except Error (List Sample))
  pure (takeUpTo query.limit all)

end Client

end MetricGateway
