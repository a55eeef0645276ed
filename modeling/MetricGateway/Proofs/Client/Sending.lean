import MetricGateway.Proofs.Exchange
import MetricGateway.Proofs.Registry.Entries
import MetricGateway.Proofs.Signing.Headers
import MetricGateway.Proofs.Success
import MetricGateway.Proofs.Text.Utf8
import MetricGateway.Proofs.Url.Base

/-!
# What is sent for a metric

A backend is sent a request if and only if the request can be sent at all (`Backend.CanSend`,
`Backend.send_of_canSend`); what comes of it is told by the trail of its redirects
(`Backend.outcome`). Fetching a metric sends at most one request, and this one to the place for
queries over a range of time (`Gateway.requests_telemetry`). What succeeded has been sent and
answered (`Gateway.exists_of_telemetry_ok`).
-/

namespace MetricGateway

open Success

namespace Backend

variable {world : World} {url : Url} {headers : List Header}

/-- A request for a URL with headers can be put on the wire. -/
structure CanSend (url : Url) (headers : List Header) : Prop where
  /-- Each header can be sent. -/
  headers : ∀ header ∈ headers, Header.isValue header.value = true
  /-- Backends are called over this scheme. -/
  scheme : url.scheme ∈ schemes
  /-- The URL names a target. -/
  target : (Signing.Target.ofUrl (plainUrl url).render).isSome

/-- The request that is sent for a URL. -/
def requestOf (url : Url) (headers : List Header) : BackendRequest where
  url := url.withoutUser.withoutFragment.render
  headers := userHeaders url ++ headers

/-- A user for whom there is no header does not go over the wire either. -/
theorem wire_plainUrl (url : Url) (headers : List Header) :
    wire (plainUrl url) headers = ⟨url.withoutUser.withoutFragment.render, headers⟩ := by
  unfold plainUrl
  split
  · rfl
  · rfl

/-- If there is no user to be taken out of a URL, none is. -/
theorem plainUrl_eq_self (h : url.withoutUser = url) : plainUrl url = url := by
  unfold plainUrl
  rw [h, ite_self]

/-- The header for a user is the one for its name and its password. A password that is no text
counts as empty. -/
theorem userHeaders_of_utf8 {user : String} (h : Text.percentDecode url.user = Text.utf8 user) :
    userHeaders url =
      let password := (Text.ofUtf8? (Text.percentDecode url.password)).getD ""
      if user = "" ∧ password = "" then []
      else [⟨"authorization",
        "Basic " ++ String.ofList
          (Text.base64 (Text.utf8 user ++ 0x3A :: Text.utf8 password))⟩] := by
  unfold userHeaders userOf
  rw [h, Text.ofUtf8?_utf8, Option.bind_eq_bind, Option.bind_some]
  dsimp only
  split
  · next heq =>
    split at heq
    · cases heq
    · next hnamed =>
      cases heq
      rw [if_neg hnamed]
  · next heq =>
    split at heq
    · next hnamed => rw [if_pos hnamed]
    · cases heq

/-- For a user that is no text there is no header. -/
theorem userHeaders_of_not_utf8 (h : Text.ofUtf8? (Text.percentDecode url.user) = none) :
    userHeaders url = [] := by
  unfold userHeaders userOf
  rw [h]
  rfl

/-- What comes of a request for a URL, with the redirects that it leads to. -/
def outcome (world : World) (timeoutSeconds : Nat) (url : Url) (headers : List Header) : Outcome :=
  pursue (world.backend timeoutSeconds) maxFollowed 0 (plainUrl url) (userHeaders url ++ headers)

/-- A request that can be sent is sent, and its answers are followed. -/
theorem send_of_canSend (timeoutSeconds : Nat) (h : CanSend url headers) :
    send world timeoutSeconds url headers = {
      result := (outcome world timeoutSeconds url headers).result
      requests := [.backend (requestOf url headers)]
      followed := (outcome world timeoutSeconds url headers).followed } := by
  have hheaders : ¬(!headers.all fun header => Header.isValue header.value) = true := by
    rw [List.all_eq_true.2 h.headers]
    decide
  have hscheme : ¬(!schemes.contains url.scheme) = true := by
    rw [List.contains_iff_mem.2 h.scheme]
    decide
  have htarget : ¬(Signing.Target.ofUrl (plainUrl url).render).isNone = true := by
    rw [Option.isNone_iff_eq_none, ← Option.not_isSome_iff_eq_none, not_not]
    exact h.target
  unfold send
  dsimp only
  rw [if_neg hheaders, if_neg hscheme, if_neg htarget, wire_plainUrl]
  rfl

/-- An outside that stands still sends nobody anywhere. -/
theorem outcome_still (delivery : Delivery) (seconds timeoutSeconds : Nat) (url : Url)
    (headers : List Header) :
    outcome (.still delivery seconds) timeoutSeconds url headers =
      { result := receive (plainUrl url).render delivery } := by
  have hstays : next? { delivery } = none := ite_self _
  unfold outcome pursue
  dsimp only [World.still]
  rw [hstays]

/-- What keeps a request for a URL with headers from being sent, the first thing that does. -/
inductive Blocks (url : Url) (headers : List Header) : TransportError → Prop where
  | header (illegal : ∃ header ∈ headers, Header.isValue header.value = false) :
    Blocks url headers .illegalHeader
  | scheme (legal : ∀ header ∈ headers, Header.isValue header.value = true)
    (other : url.scheme ∉ schemes) :
    Blocks url headers (.unsupportedScheme (plainUrl url).render)
  | target (legal : ∀ header ∈ headers, Header.isValue header.value = true)
    (scheme_mem : url.scheme ∈ schemes)
    (none_eq : Signing.Target.ofUrl (plainUrl url).render = none) :
    Blocks url headers (.unsendableUrl (plainUrl url).render)

/-- A request that cannot be sent is kept from it by something, and fails with that. -/
theorem exists_blocks_of_not_canSend (world : World) (timeoutSeconds : Nat)
    (h : ¬CanSend url headers) :
    ∃ cause, Blocks url headers cause ∧
      send world timeoutSeconds url headers = .ofResult (.error (.transport cause)) := by
  unfold send
  dsimp only
  split
  · next hheaders => exact ⟨_, .header (by simpa using hheaders), rfl⟩
  next hheaders =>
  have hlegal : ∀ header ∈ headers, Header.isValue header.value = true := by simpa using hheaders
  split
  · next hscheme => exact ⟨_, .scheme hlegal (by simpa using hscheme), rfl⟩
  next hscheme =>
  have hknown : url.scheme ∈ schemes := by simpa using hscheme
  split
  · next htarget => exact ⟨_, .target hlegal hknown (Option.isNone_iff_eq_none.1 htarget), rfl⟩
  next htarget =>
  -- Past all guards, the request could have been sent.
  exact absurd ⟨hlegal, hknown, by simpa [Option.isSome_iff_ne_none] using htarget⟩ h

/-- A request that cannot be sent fails, and nothing is sent. -/
theorem send_of_not_canSend (world : World) (timeoutSeconds : Nat) (h : ¬CanSend url headers) :
    ∃ cause, send world timeoutSeconds url headers = .ofResult (.error (.transport cause)) := by
  obtain ⟨cause, -, hsend⟩ := exists_blocks_of_not_canSend world timeoutSeconds h
  exact ⟨cause, hsend⟩

end Backend

namespace Client

variable {client : Client} {world : World} {place : String} {pairs : List (String × String)}

/-- The URL of a place below the plain base URL of a client. -/
theorem url_below {base : Url.Base} {segments : List (List Char)}
    (h : client.baseUrl.toList = base.text)
    (hplace : "/".toList ++ place.toList = Path.written segments) (hsegments : segments ≠ [])
    (hplain : ∀ segment ∈ segments, Path.IsPlain segment) :
    client.url place pairs = .ok ((base.below segments).addPairs pairs) := by
  have htext : client.baseUrl ++ "/" ++ place =
      String.ofList (base.text ++ Path.written segments) := by
    rw [← String.toList_inj, String.toList_append, String.toList_append, h, List.append_assoc,
      hplace, String.toList_ofList]
  unfold url
  rw [htext, base.read_below hsegments hplain]

/-- A signature that cannot be made is the only thing that goes wrong with the headers. -/
theorem signatureHeaders_eq_error {seconds : Nat} {url : Url}
    (h : ∀ headers, client.signatureHeaders seconds url ≠ .ok headers) :
    client.signatureHeaders seconds url = .error .signing := by
  unfold signatureHeaders at h ⊢
  cases hsigner : client.signer with
  | none =>
    rw [hsigner] at h
    exact absurd rfl (h [])
  | some signer =>
    rw [hsigner] at h
    exact Signer.sign_eq_error h

/-- Asking a place of the backend comes to a request that can be sent. -/
structure Sends (client : Client) (world : World) (place : String)
    (pairs : List (String × String)) (url : Url) (headers : List Header) : Prop where
  url_eq : client.url place pairs = .ok url
  headers_eq : client.signatureHeaders world.seconds url = .ok headers
  canSend : Backend.CanSend url headers

/-- A request for a URL is what asking comes to, once the URL and the headers are there. -/
theorem get_eq_send {url : Url} {headers : List Header} (hurl : client.url place pairs = .ok url)
    (hheaders : client.signatureHeaders world.seconds url = .ok headers) :
    client.get world place pairs = Backend.send world client.timeoutSeconds url headers := by
  unfold get
  rw [hurl, Exchange.ok_lift_bind, hheaders, Exchange.ok_lift_bind]

/-- What can be sent is the only request. -/
theorem requests_get_of_sends {url : Url} {headers : List Header}
    (h : client.Sends world place pairs url headers) :
    (client.get world place pairs).requests = [.backend (Backend.requestOf url headers)] := by
  rw [get_eq_send h.url_eq h.headers_eq, Backend.send_of_canSend _ h.canSend]

/-- If the outside stands still, what it delivers is the response. -/
theorem result_get_still {delivery : Delivery} {seconds : Nat} {url : Url} {headers : List Header}
    (h : client.Sends (.still delivery seconds) place pairs url headers) :
    (client.get (.still delivery seconds) place pairs).result =
      Backend.receive (Backend.plainUrl url).render delivery := by
  rw [get_eq_send h.url_eq h.headers_eq, Backend.send_of_canSend _ h.canSend,
    Backend.outcome_still]

/-- Without a request that can be sent, nothing is sent, and there is no response. -/
theorem get_of_not_sends (h : ∀ url headers, ¬client.Sends world place pairs url headers) :
    ∃ error, client.get world place pairs = .ofResult (.error error) := by
  cases hurl : client.url place pairs with
  | error error =>
    refine ⟨error, ?_⟩
    unfold get
    rw [hurl, Exchange.error_lift_bind]
  | ok url =>
    cases hheaders : client.signatureHeaders world.seconds url with
    | error error =>
      refine ⟨error, ?_⟩
      unfold get
      rw [hurl, Exchange.ok_lift_bind, hheaders, Exchange.error_lift_bind]
    | ok headers =>
      have hsend : ¬Backend.CanSend url headers := by
        intro hsend
        exact h url headers ⟨hurl, hheaders, hsend⟩
      obtain ⟨cause, hcause⟩ := Backend.send_of_not_canSend world _ hsend
      exact ⟨.transport cause, (get_eq_send hurl hheaders).trans hcause⟩

/-- What was answered has been sent. -/
theorem exists_sends_of_get_ok {response : Response}
    (h : (client.get world place pairs).result = .ok response) :
    ∃ url headers, client.Sends world place pairs url headers := by
  by_contra hnone
  simp only [not_exists] at hnone
  obtain ⟨error, herror⟩ := get_of_not_sends hnone
  rw [herror] at h
  cases h

/-- Reading the payload of a response sends nothing more. -/
theorem requests_getPayload (client : Client) (world : World) (place : String)
    (pairs : List (String × String)) :
    (client.getPayload world place pairs).requests = (client.get world place pairs).requests := by
  unfold getPayload
  refine Exchange.requests_bind_of_silent fun response => ?_
  exact Exchange.requests_bind_of_silent fun body => rfl

/-- Listing texts sends nothing more. -/
theorem requests_getListing (client : Client) (world : World) (place : String) :
    (client.getListing world place).requests = (client.get world place []).requests := by
  unfold getListing
  rw [Exchange.requests_bind_of_silent fun _ => rfl]
  exact client.requests_getPayload world place []

/-- The labels are asked for with one request. -/
theorem requests_labels (client : Client) (world : World) (limit : Nat) :
    (client.labels world limit).requests = (client.get world labelsPlace []).requests := by
  unfold labels
  rw [Exchange.requests_bind_of_silent fun _ => rfl]
  exact client.requests_getListing world labelsPlace

/-- The values of a label are asked for with one request. -/
theorem requests_labelValues (client : Client) (world : World) (label : String)
    (start : Option String) (offset limit : Nat) :
    (client.labelValues world label start offset limit).requests =
      (client.get world (valuesPlace label) []).requests := by
  unfold labelValues
  rw [Exchange.requests_bind_of_silent fun _ => rfl]
  exact client.requests_getListing world (valuesPlace label)

section Unanswered

variable {error : Error}

/-- Without a response there is no payload. -/
theorem getPayload_of_get_error (h : client.get world place pairs = .ofResult (.error error)) :
    client.getPayload world place pairs = .ofResult (.error error) := by
  unfold getPayload
  rw [h]
  rfl

/-- Without a response there is no listing. -/
theorem getListing_of_get_error (h : client.get world place [] = .ofResult (.error error)) :
    client.getListing world place = .ofResult (.error error) := by
  unfold getListing
  rw [getPayload_of_get_error h]
  rfl

/-- Without a response there are no samples. -/
theorem samples_of_get_error {query : RangeQuery} {text : String}
    (hcompile : PromQL.compile query.conditions query.method query.window = .ok text)
    (h : client.get world rangePlace (query.pairs text) = .ofResult (.error error)) :
    client.samples world query = .ofResult (.error error) := by
  unfold samples
  rw [mapError_eq_ok_iff.2 hcompile, Exchange.ok_lift_bind, getPayload_of_get_error h]
  rfl

end Unanswered

/-- Samples are asked for in a single request, whose pairs hold the text of the query. -/
theorem requests_samples (query : RangeQuery) {text : String}
    (h : PromQL.compile query.conditions query.method query.window = .ok text) :
    (client.samples world query).requests =
      (client.get world rangePlace (query.pairs text)).requests := by
  unfold samples
  rw [mapError_eq_ok_iff.2 h, Exchange.ok_lift_bind, ← requests_getPayload]
  refine Exchange.requests_bind_of_silent fun payload => ?_
  exact Exchange.requests_bind_of_silent fun all => rfl

/-- Samples come from a response to the text of the query. -/
theorem exists_of_samples_ok {query : RangeQuery} {samples : List Sample}
    (h : (client.samples world query).result = .ok samples) :
    ∃ text response, PromQL.compile query.conditions query.method query.window = .ok text ∧
      (client.get world rangePlace (query.pairs text)).result = .ok response := by
  unfold Client.samples getPayload at h
  simp only [Exchange.result_bind, Exchange.result_lift, bind_assoc] at h
  obtain ⟨text, htext, h⟩ := bind_eq_ok_iff.1 h
  obtain ⟨response, hresponse, -⟩ := bind_eq_ok_iff.1 h
  exact ⟨text, response, mapError_eq_ok_iff.1 htext, hresponse⟩

end Client

namespace Gateway

variable {client : Client} {world : World} {query : Query} {method : Option Method}

/-- The method of an aggregation is the one that it names. -/
theorem exists_of_method_ok {aggregation : Aggregation}
    (haggregation : query.aggregation = some aggregation) (h : Gateway.method query = .ok method) :
    ∃ given, aggregation.method = .ok given ∧ method = some given := by
  unfold Gateway.method at h
  rw [haggregation, mapError_eq_ok_iff] at h
  obtain ⟨given, hgiven, hmethod⟩ := map_eq_ok_iff.1 h
  exact ⟨given, hgiven, hmethod.symm⟩

/-- Fetching a metric sends what asking for its samples sends. -/
theorem requests_telemetry {text : String} (hmethod : Gateway.method query = .ok method)
    (htext : PromQL.compile query.conditions method (query.windowMillis / 1000) = .ok text) :
    (telemetry world query client).requests =
      (client.get world Client.rangePlace ((rangeQuery query method).pairs text)).requests := by
  unfold telemetry
  rw [hmethod, Exchange.ok_lift_bind]
  rw [← Client.requests_samples (rangeQuery query method) htext]
  exact Exchange.requests_bind_of_silent fun samples => rfl

/-- Without a method that is known, nothing is sent. -/
theorem requests_telemetry_of_method_error {error : Error}
    (h : Gateway.method query = .error error) : (telemetry world query client).requests = [] := by
  unfold telemetry
  rw [h, Exchange.error_lift_bind]
  rfl

/-- Without a text of the query, nothing is sent. -/
theorem requests_telemetry_of_compile_error {error : QueryError}
    (hmethod : Gateway.method query = .ok method)
    (h : PromQL.compile query.conditions method (query.windowMillis / 1000) = .error error) :
    (telemetry world query client).requests = [] := by
  have hcompile : PromQL.compile (rangeQuery query method).conditions
      (rangeQuery query method).method (rangeQuery query method).window = .error error := h
  have hsamples : (client.samples world (rangeQuery query method)).requests = [] := by
    unfold Client.samples
    rw [hcompile]
    rfl
  unfold telemetry
  rw [hmethod, Exchange.ok_lift_bind, ← hsamples]
  exact Exchange.requests_bind_of_silent fun _ => rfl

/-- Points of a metric are made of samples, which come from a response to the text of the query. -/
theorem exists_of_telemetry_ok {points : Telemetry}
    (h : (telemetry world query client).result = .ok points) :
    ∃ method text samples response, Gateway.method query = .ok method ∧
      PromQL.compile query.conditions method (query.windowMillis / 1000) = .ok text ∧
      (client.get world Client.rangePlace ((rangeQuery query method).pairs text)).result =
        .ok response ∧
      Gateway.points query client.nanPolicy samples method = .ok points := by
  unfold telemetry at h
  simp only [Exchange.result_bind, Exchange.result_lift] at h
  obtain ⟨method, hmethod, h⟩ := bind_eq_ok_iff.1 h
  obtain ⟨samples, hsamples, hpoints⟩ := bind_eq_ok_iff.1 h
  obtain ⟨text, response, htext, hresponse⟩ := Client.exists_of_samples_ok hsamples
  exact ⟨method, text, samples, response, hmethod, htext, hresponse, hpoints⟩

end Gateway

namespace Registry

variable {α : Type} {registry : Registry} {world : World} {connection : Connection}
  {act : Client → Exchange α}

/-- With a registered client, only what is done with it is sent. -/
theorem requests_withClient_of_find? {client : Client}
    (h : registry.find? connection.baseUrl = some client) :
    (registry.withClient world connection act).exchange.requests = (act client).requests := by
  unfold withClient
  rw [obtain_of_find?_eq_some h]
  rfl

/-- What succeeds with a client has obtained it first. -/
theorem exists_of_withClient_ok {value : α}
    (h : (registry.withClient world connection act).exchange.result = .ok value) :
    ∃ client, (registry.obtain world connection).exchange.result = .ok client ∧
      (act client).result = .ok value ∧
      (registry.withClient world connection act).exchange.requests =
        (registry.obtain world connection).exchange.requests ++ (act client).requests := by
  change ((registry.obtain world connection).exchange >>= act).result = _ at h
  rw [Exchange.result_bind] at h
  obtain ⟨client, hclient, hact⟩ := bind_eq_ok_iff.1 h
  exact ⟨client, hclient, hact, Exchange.requests_bind_of_ok hclient⟩

end Registry

end MetricGateway
