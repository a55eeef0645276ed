import MetricGateway.Proofs.Client.Sending

/-!
# What a probe shows

A probe asks one place of the backend, or nobody if the URL cannot be read, the request cannot be
signed or it cannot be sent. It goes where the backend sends it, and nowhere else (`Leads`). It
never fails: what kept it from an answer is what it shows, with the status of a backend that cannot
be reached (`probing`). Any other status is that of the last answer (`Probing.exists_delivery`).
-/

namespace MetricGateway

namespace Client

/-- A probe asks its place with a request, and redirects lead from there to the answer of a URL. -/
structure Leads (client : Client) (world : World) (request : BackendRequest)
    (followed : List BackendRequest) (last : Url) (hop : Hop) : Prop where
  exists_trail : ∃ url headers, client.Sends world client.probePlace [] url headers ∧
    request = Backend.requestOf url headers ∧
    Backend.Trail (world.backend client.timeoutSeconds) 0 (Backend.plainUrl url)
      (Backend.userHeaders url ++ headers) followed last hop
  length_le : followed.length ≤ 10

/-- What a probe asks, with which requests it follows redirects, and what it shows. -/
inductive Probing (client : Client) (world : World) :
    Option BackendRequest → List BackendRequest → Health → Prop where
  /-- The URL of the place cannot be read. -/
  | misread {cause : UrlError}
    (read : Url.read (client.baseUrl ++ "/" ++ client.probePlace) = .error cause) :
    Probing client world none [] ⟨502, (Error.configuration (.url client.baseUrl cause)).message⟩
  /-- The request cannot be signed. -/
  | unsigned {url : Url}
    (read : Url.read (client.baseUrl ++ "/" ++ client.probePlace) = .ok url)
    (unsigned : ∀ headers, client.signatureHeaders world.seconds url ≠ .ok headers) :
    Probing client world none [] ⟨502, Error.signing.message⟩
  /-- The request cannot be sent. -/
  | unsent {url : Url} {headers : List Header} {cause : TransportError}
    (read : Url.read (client.baseUrl ++ "/" ++ client.probePlace) = .ok url)
    (signed : client.signatureHeaders world.seconds url = .ok headers)
    (blocks : Backend.Blocks url headers cause) :
    Probing client world none [] ⟨502, (Error.transport cause).message⟩
  /-- Nothing comes back, for a cause. -/
  | unanswered {request : BackendRequest} {followed : List BackendRequest} {last : Url} {hop : Hop}
    {cause : String} (leads : Leads client world request followed last hop)
    (delivery : hop.delivery = .nothing cause) :
    Probing client world (some request) followed
      ⟨502, (Error.transport (.noAnswer last.render cause)).message⟩
  /-- The answer is one redirect too many. -/
  | misled {request : BackendRequest} {followed : List BackendRequest} {last : Url} {hop : Hop}
    (leads : Leads client world request followed last hop) (redirects : (Backend.next? hop).isSome)
    (length_eq : followed.length = 10) :
    Probing client world (some request) followed
      ⟨502, (Error.transport (.redirect last.render Backend.tooManyRedirects)).message⟩
  /-- The body of the answer cannot be read. -/
  | cut {request : BackendRequest} {followed : List BackendRequest} {last : Url} {hop : Hop}
    {status : Nat} {details : String} (leads : Leads client world request followed last hop)
    (settled : Backend.next? hop = none) (delivery : hop.delivery = .incomplete status details)
    (body : Backend.hasBody status = true) :
    Probing client world (some request) followed
      ⟨502, (TransportError.incompleteBody details).message⟩
  /-- The body cannot be read, but there is none to wait for. -/
  | bodiless {request : BackendRequest} {followed : List BackendRequest} {last : Url} {hop : Hop}
    {status : Nat} {details : String} (leads : Leads client world request followed last hop)
    (settled : Backend.next? hop = none) (delivery : hop.delivery = .incomplete status details)
    (body : Backend.hasBody status = false) :
    Probing client world (some request) followed ⟨status, ""⟩
  /-- An answer comes back. -/
  | answered {request : BackendRequest} {followed : List BackendRequest} {last : Url} {hop : Hop}
    {reply : Reply} (leads : Leads client world request followed last hop)
    (settled : Backend.next? hop = none) (delivery : hop.delivery = .complete reply) :
    Probing client world (some request) followed
      ⟨reply.status, if Backend.hasBody reply.status then reply.text else ""⟩

variable {client : Client} {world : World}

/-- The segments of the place that is asked: the labels if the client signs, and otherwise the
health of the backend. -/
def probeSegments (client : Client) : List (List Char) :=
  if client.signer.isSome then ["api".toList, "v1".toList, "labels".toList]
  else ["-".toList, "healthy".toList]

/-- The place that is probed is written segment by segment. -/
theorem written_probeSegments (client : Client) :
    "/".toList ++ client.probePlace.toList = Path.written client.probeSegments := by
  unfold probePlace probeSegments isSigned
  split
  · decide
  · decide

/-- No segment of the place that is probed needs an escape. -/
theorem isPlain_probeSegments (client : Client) :
    ∀ segment ∈ client.probeSegments, Path.IsPlain segment := by
  unfold probeSegments
  split
  · decide
  · decide

/-- The place that is probed has a segment. -/
theorem probeSegments_ne_nil (client : Client) : client.probeSegments ≠ [] := by
  unfold probeSegments
  split
  · exact List.cons_ne_nil _ _
  · exact List.cons_ne_nil _ _

/-- A probe turns what comes of its request into a report, which is no failure. -/
theorem probe_eq {exchange : Exchange Response}
    (h : client.get world client.probePlace [] = exchange) :
    client.probe world = { exchange with result := .ok (.ofResult exchange.result) } := by
  unfold probe
  rw [h]

/-- A probe without a request shows what kept it from one. -/
theorem probe_of_error {error : Error}
    (h : client.get world client.probePlace [] = .ofResult (.error error)) :
    client.probe world = { result := .ok ⟨502, error.message⟩ } :=
  probe_eq h

/-- What is cut off shows that it is, unless there is no body to be cut off. -/
theorem ofResult_receive_incomplete (url : String) (status : Nat) (details : String) :
    Health.ofResult (Backend.receive url (.incomplete status details)) =
      if Backend.hasBody status then ⟨502, (TransportError.incompleteBody details).message⟩
      else ⟨status, ""⟩ := by
  unfold Backend.receive
  dsimp only
  cases Backend.hasBody status with
  | true => rfl
  | false => rfl

/-- What a request that can be sent shows. -/
theorem probing_of_sends {url : Url} {headers : List Header}
    (h : client.Sends world client.probePlace [] url headers) :
    ∃ followed health, client.probe world =
        { result := .ok health, requests := [.backend (Backend.requestOf url headers)], followed } ∧
      Probing client world (some (Backend.requestOf url headers)) followed health := by
  refine ⟨_, _, probe_eq ((get_eq_send h.url_eq h.headers_eq).trans
    (Backend.send_of_canSend _ h.canSend)), ?_⟩
  obtain ⟨last, hop, htrail, hlength, hends⟩ := Backend.exists_ends_pursue
    (world.backend client.timeoutSeconds) Backend.maxFollowed 0 (Backend.plainUrl url)
    (Backend.userHeaders url ++ headers)
  have hleads := Leads.mk ⟨url, headers, h, rfl, htrail⟩ hlength
  -- The cases are how the trail ends and what its last hop delivers.
  unfold Backend.outcome
  generalize (Backend.pursue _ _ _ _ _).result = result at hends
  cases hends with
  | stopped redirects length_eq => exact .misled hleads redirects length_eq
  | settled none_eq =>
    cases hdelivery : hop.delivery with
    | nothing cause => exact .unanswered hleads hdelivery
    | incomplete status details =>
      rw [ofResult_receive_incomplete]
      cases hbody : Backend.hasBody status with
      | true => exact .cut hleads none_eq hdelivery hbody
      | false => exact .bodiless hleads none_eq hdelivery hbody
    | complete reply => exact .answered hleads none_eq hdelivery

/-- A probe never fails. What it asks and what it shows is told by what stands in its way, or by
what comes of its request. -/
theorem probing (client : Client) (world : World) :
    ∃ asked followed health, client.probe world =
        { result := .ok health, requests := asked.toList.map Request.backend, followed } ∧
      Probing client world asked followed health := by
  cases hread : Url.read (client.baseUrl ++ "/" ++ client.probePlace) with
  | error cause =>
    have hurl : client.url client.probePlace [] =
        .error (.configuration (.url client.baseUrl cause)) := by
      unfold Client.url
      rw [hread]
    have hget : client.get world client.probePlace [] =
        .ofResult (.error (.configuration (.url client.baseUrl cause))) := by
      unfold get
      rw [hurl, Exchange.error_lift_bind]
    exact ⟨none, [], _, probe_of_error hget, .misread hread⟩
  | ok url =>
    have hurl : client.url client.probePlace [] = .ok url := by
      unfold Client.url
      rw [hread]
      rfl
    -- A request is signed before it is found out whether it can be sent.
    by_cases hsigned : ∀ headers, client.signatureHeaders world.seconds url ≠ .ok headers
    · have hget : client.get world client.probePlace [] = .ofResult (.error .signing) := by
        unfold get
        rw [hurl, Exchange.ok_lift_bind, signatureHeaders_eq_error hsigned,
          Exchange.error_lift_bind]
      exact ⟨none, [], _, probe_of_error hget, .unsigned hread hsigned⟩
    · obtain ⟨headers, hheaders⟩ := not_forall_not.1 hsigned
      by_cases hsend : Backend.CanSend url headers
      · obtain ⟨followed, health, hprobe, hprobing⟩ := probing_of_sends ⟨hurl, hheaders, hsend⟩
        exact ⟨some _, followed, health, hprobe, hprobing⟩
      · obtain ⟨cause, hblocks, hcause⟩ := Backend.exists_blocks_of_not_canSend world _ hsend
        exact ⟨none, [], _, probe_of_error ((get_eq_send hurl hheaders).trans hcause),
          .unsent hread hheaders hblocks⟩

namespace Probing

variable {asked : Option BackendRequest} {followed : List BackendRequest} {health : Health}

/-- A status other than that of a backend that cannot be reached is that of the last answer. -/
theorem exists_delivery (h : Probing client world asked followed health)
    (hstatus : health.status ≠ 502) :
    ∃ request last hop, asked = some request ∧ Leads client world request followed last hop ∧
      ((∃ details, hop.delivery = .incomplete health.status details) ∧
          Backend.hasBody health.status = false ∨
        ∃ reply, hop.delivery = .complete reply ∧ reply.status = health.status) := by
  cases h with
  | misread _ | unsigned _ _ | unsent _ _ _ | unanswered _ _ | misled _ _ _ | cut _ _ _ _ =>
    exact absurd rfl hstatus
  | bodiless leads _ delivery body => exact ⟨_, _, _, rfl, leads, .inl ⟨⟨_, delivery⟩, body⟩⟩
  | answered leads _ delivery => exact ⟨_, _, _, rfl, leads, .inr ⟨_, delivery, rfl⟩⟩

/-- A failure of a server that a probe shows is one that the last answer reports. -/
theorem exists_reply (h : Probing client world asked followed health)
    (hstatus : health.status = 500) :
    ∃ request last hop reply, asked = some request ∧ Leads client world request followed last hop ∧
      hop.delivery = .complete reply ∧ reply.status = 500 := by
  obtain ⟨request, last, hop, hasked, hleads, hdelivery⟩ :=
    h.exists_delivery (by rw [hstatus]; decide)
  rw [hstatus] at hdelivery
  -- A body that cannot be read is shown with the status of a backend that cannot be reached.
  obtain ⟨-, hbody⟩ | ⟨reply, hreply, hgiven⟩ := hdelivery
  · exact absurd hbody (by decide)
  · exact ⟨request, last, hop, reply, hasked, hleads, hreply, hgiven⟩

/-- Without a request there are no redirects, and with one they lead to an answer. -/
theorem leads (h : Probing client world asked followed health) :
    asked = none ∧ followed = [] ∨
      ∃ request last hop, asked = some request ∧ Leads client world request followed last hop := by
  cases h with
  | misread _ | unsigned _ _ | unsent _ _ _ => exact .inl ⟨rfl, rfl⟩
  | unanswered leads _ | misled leads _ _ | cut leads _ _ _ | bodiless leads _ _ _
  | answered leads _ _ => exact .inr ⟨_, _, _, rfl, leads⟩

/-- Below a plain base URL, the place that is asked is that of the labels if the client signs, and
otherwise that of the health of the backend. -/
theorem url_of_plain (h : Probing client world asked followed health) {request : BackendRequest}
    (hasked : asked = some request) {base : Url.Base} (hbase : client.baseUrl.toList = base.text) :
    request.url.toList = base.origin ++ Path.written (base.segments ++ client.probeSegments) := by
  obtain ⟨hnone, -⟩ | ⟨sent, last, hop, hsent, hleads⟩ := h.leads
  · rw [hnone] at hasked
    cases hasked
  obtain rfl : sent = request := Option.some.inj (hsent.symm.trans hasked)
  obtain ⟨url, headers, hsends, rfl, -⟩ := hleads.exists_trail
  have hurl := hsends.url_eq
  rw [url_below hbase client.written_probeSegments client.probeSegments_ne_nil
    client.isPlain_probeSegments] at hurl
  cases hurl
  exact (base.toList_render_bare_below client.probeSegments none).trans (List.append_nil _)

end Probing

end Client

end MetricGateway
