import MetricGateway.Exchange
import MetricGateway.Header
import MetricGateway.Text.Charset

/-!
# Requests to backends

A request is sent if it can be put on the wire at all. An answer that sends who asks to another
place is followed there, though not for ever. What comes back at the end is a response whose body is
a text, unless it cannot be read.
-/

namespace MetricGateway

/-- What a backend answers. -/
structure Response where
  /-- Where the answer comes from. -/
  url : String
  status : Nat
  /-- The text of the body, unless it cannot be read. -/
  body : Except TransportError String

namespace Reply

/-- The character set that the content type of an answer names, if it is one that is read here. -/
def charset? (reply : Reply) : Option Text.Charset := do
  let mediaType ← MediaType.read reply.contentType
  let name ← mediaType.parameter? "charset"
  Text.Charset.ofName name

/-- The text of the body of an answer. -/
def text (reply : Reply) : String :=
  match reply.charset? with
  | some charset => charset.decode reply.body
  | none => reply.foreign.getD (Text.Charset.utf8.decode reply.body)

end Reply

namespace Backend

/-- Whether answers with a status have a body. -/
def hasBody (status : Nat) : Bool := status ≠ 204 && status ≠ 304

/-- The schemes over which a backend is called. -/
def schemes : List (List Char) := ["http".toList, "https".toList]

/-! ## Users -/

/-- The user and the password that a URL names. They count only if the user is a text, and a
password that is none counts for nothing. -/
def userOf (url : Url) : Option (String × String) := do
  let user ← Text.ofUtf8? (Text.percentDecode url.user)
  let password := (Text.ofUtf8? (Text.percentDecode url.password)).getD ""
  if user = "" ∧ password = "" then none else some (user, password)

/-- The header for the user that a URL names. -/
def userHeaders (url : Url) : List Header :=
  match userOf url with
  | some (user, password) =>
    let text := Text.base64 (Text.utf8 user ++ 0x3A :: Text.utf8 password)
    [⟨"authorization", "Basic " ++ String.ofList text⟩]
  | none => []

/-- A URL without the user for whom there is a header. -/
def plainUrl (url : Url) : Url := if (userOf url).isSome then url.withoutUser else url

/-! ## Redirects -/

/-- The statuses that send who asks to another place. -/
def redirects : List Nat := [301, 302, 303, 307, 308]

/-- Where an answer sends who asks. -/
def next? (hop : Hop) : Option Url :=
  if hop.delivery.status?.any redirects.contains then hop.location else none

/-- How many redirects are followed. -/
def maxFollowed : Nat := 10

/-- Why no more redirects are followed. -/
def tooManyRedirects : String := "too many redirects"

/-- The request for a URL, as it goes over the wire. -/
def wire (url : Url) (headers : List Header) : BackendRequest where
  url := url.withoutUser.withoutFragment.render
  headers := headers

/-- Whether a request goes to the same host and port as another one. -/
def sameOrigin (url next : Url) : Bool := url.host = next.host && url.knownPort = next.knownPort

/-- The headers that go along with a redirect. An authorization is not told to another host. -/
def headersFor (url next : Url) (headers : List Header) : List Header :=
  if sameOrigin url next then headers else headers.filter fun header =>
    header.name ≠ "authorization"

/-- The response that a delivery brings. -/
def receive (url : String) : Delivery → Except Error Response
  | .nothing cause => .error (.transport (.noAnswer url cause))
  | .incomplete status details =>
    .ok {
      url, status
      body := if hasBody status then .error (.incompleteBody details) else .ok "" }
  | .complete reply =>
    .ok {
      url
      status := reply.status
      body := .ok (if hasBody reply.status then reply.text else "") }

/-- What comes of a request and the redirects that it leads to. -/
structure Outcome where
  result : Except Error Response
  /-- The requests with which redirects were followed. -/
  followed : List BackendRequest := []

/-- Asks for a URL and goes where the answers lead, given how many more redirects are followed and
how many have been. -/
def pursue (answer : Nat → BackendRequest → Hop) : Nat → Nat → Url → List Header → Outcome
  | left, followed, url, headers =>
    let hop := answer followed (wire url headers)
    match next? hop, left with
    | none, _ => { result := receive url.render hop.delivery }
    | some _, 0 => { result := .error (.transport (.redirect url.render tooManyRedirects)) }
    | some next, left + 1 =>
      let headers := headersFor url next headers
      let outcome := pursue answer left (followed + 1) next headers
      { outcome with followed := wire next headers :: outcome.followed }

/-! ## Requests -/

/-- Sends a request for a URL, with so many seconds for what comes of it. Its user goes into a
header, and its fragment stays here. -/
def send (world : World) (timeoutSeconds : Nat) (url : Url) (headers : List Header) :
    Exchange Response :=
  let plain := plainUrl url
  if !headers.all fun header => Header.isValue header.value then
    .ofResult (.error (.transport .illegalHeader))
  else if !schemes.contains url.scheme then
    .ofResult (.error (.transport (.unsupportedScheme plain.render)))
  else if (Signing.Target.ofUrl plain.render).isNone then
    .ofResult (.error (.transport (.unsendableUrl plain.render)))
  else
    let headers := userHeaders url ++ headers
    let outcome := pursue (world.backend timeoutSeconds) maxFollowed 0 plain headers
    { result := outcome.result
      requests := [.backend (wire plain headers)]
      followed := outcome.followed }

end Backend

end MetricGateway
