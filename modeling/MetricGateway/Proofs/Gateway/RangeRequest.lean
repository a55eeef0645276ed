import MetricGateway.Proofs.Client.Sending
import MetricGateway.Proofs.Gateway.History
import MetricGateway.Proofs.PromQL.Compile
import MetricGateway.Proofs.Signing.Headers
import MetricGateway.Proofs.Signing.Target

/-!
# The request for a metric

Fetching a metric over a registered connection with a plain base URL sends a single request. It goes
to the place for queries over a range of time below the base URL, and what its query says, once
decoded, is the compiled text, the start and the end in whole seconds, and the step, which is the
window that the text was compiled for (`requested`).

Not every such request can be sent: the signer of the client, the host and the length of the URL can
each keep it from being put on the wire (`CanCarry`). Then nothing is sent at all.
-/

namespace MetricGateway.Gateway

open Text
open Url (Base)

/-- The segments of the place for queries over a range of time. -/
def rangeSegments : List (List Char) := ["api".toList, "v1".toList, "query_range".toList]

/-- A request for a URL below a plain base URL can be put on the wire for a client. -/
structure CanCarry (client : Client) (base : Base) (url : String) : Prop where
  /-- The URL is not too long. -/
  size : url.utf8ByteSize ≤ 65534
  /-- No sign in the host is kept from being sent. -/
  host : ∀ c ∈ base.host.render, c ∉ "\"\x60\x7b\x7d".toList
  /-- What the signer signs with can stand in headers. -/
  signer : ∀ signer, client.signer = some signer → signer.IsLegal

/-- What the request for a metric says. -/
structure Says (base : Base) (query : Query) (method : Option Method) (url text : String)
    (window : Nat) : Prop where
  /-- With an aggregation, the window is that of its buckets, in whole seconds. -/
  window_of_aggregation : ∀ aggregation, query.aggregation = some aggregation →
    window = max aggregation.bucketMillis 30000 / 1000
  /-- Without one, it is half a minute. -/
  window_of_none : query.aggregation = none → window = 30
  /-- It is never shorter. -/
  le_window : 30 ≤ window
  /-- The text is compiled for the window. -/
  compile_eq : PromQL.compile query.conditions method window = .ok text
  /-- The request goes to the place below the base URL, and its form holds four pairs. -/
  pairs : ∃ form, Url.splitAt '?' url.toList =
      (base.origin ++ (Path.written base.segments ++ "/api/v1/query_range".toList), some form) ∧
    formPairs form = [("query", text), ("start", toString (query.startMillis / 1000)),
      ("end", toString (query.endMillis / 1000)), ("step", toString window)]

/-- No segment of the place of a range needs an escape. -/
theorem isPlain_rangeSegments : ∀ segment ∈ rangeSegments, Path.IsPlain segment := by decide

section Url

variable {client : Client} {base : Base} {pairs : List (String × String)}

/-- The URL of a request below the base URL of a client. -/
theorem url_rangePlace (h : client.baseUrl.toList = base.text) :
    client.url Client.rangePlace pairs = .ok ((base.below rangeSegments).addPairs pairs) :=
  Client.url_below h (by decide) (List.cons_ne_nil _ _) isPlain_rangeSegments

/-- A URL below a plain base URL names a target unless it is too long or a sign in its host is kept
from being sent. -/
theorem isSome_ofUrl_iff (hpairs : pairs ≠ []) :
    (Signing.Target.ofUrl ((base.below rangeSegments).addPairs pairs).render).isSome ↔
      ((base.below rangeSegments).addPairs pairs).render.utf8ByteSize ≤ 65534 ∧
        ∀ c ∈ base.host.render, c ∉ "\"\x60\x7b\x7d".toList := by
  have hsegments := base.isPlain_append isPlain_rangeSegments
  -- The slash at the beginning of the path ends the authority.
  obtain ⟨path, hwritten⟩ :
      ∃ path, Path.written (base.segments ++ rangeSegments) = '/' :: path := by
    cases base.segments with
    | nil => exact ⟨_, rfl⟩
    | cons segment rest => exact ⟨_, rfl⟩
  -- What stands for itself in a URL may stand in a target too.
  have hpath : ∀ c ∈ path, Signing.Target.isPathChar c = true ∧ c ∉ "?#".toList := by
    intro c hc
    have hmem : c ∈ Path.written (base.segments ++ rangeSegments) := by
      rw [hwritten]
      exact List.mem_cons_of_mem _ hc
    obtain ⟨hkeeps, hbasic⟩ := Path.mem_written hsegments hmem
    exact forall_basic (p := fun c => Path.keeps c = true →
      Signing.Target.isPathChar c = true ∧ c ∉ "?#".toList) (by decide) hbasic hkeeps
  have hquery : ∀ c ∈ formOf pairs, Signing.Target.isQueryChar c = true ∧ c ≠ '#' := by
    intro c hc
    rcases mem_formOf hc with hkept | hsign
    · exact forall_basic (p := fun c => keepsInForm c = true →
        Signing.Target.isQueryChar c = true ∧ c ≠ '#') (by decide) (lt_of_keepsInForm hkept) hkept
    · have hsigns : ∀ d ∈ "+%=&".toList, Signing.Target.isQueryChar d = true ∧ d ≠ '#' :=
        List.all_iff_forall_prop.1 (by decide)
      exact hsigns c hsign
  have htext := base.toList_render_below rangeSegments hpairs
  obtain ⟨huser, hfragment⟩ := base.bare_below rangeSegments pairs
  rw [huser, hfragment, hwritten, Base.origin, List.append_assoc, List.append_assoc] at htext
  exact Signing.Target.isSome_ofUrl_iff base.scheme_mem base.isWritten_host hpath hquery htext

/-- Asking for a range of time below a plain base URL comes to a request that can be sent if and
only if the client can carry one to this URL. -/
theorem exists_sends_iff (world : World) (hbase : client.baseUrl.toList = base.text)
    (hpairs : pairs ≠ []) :
    (∃ url headers, client.Sends world Client.rangePlace pairs url headers) ↔
      CanCarry client base ((base.below rangeSegments).addPairs pairs).render := by
  have hurl : client.url Client.rangePlace pairs =
      .ok ((base.below rangeSegments).addPairs pairs) := url_rangePlace hbase
  have hplain := Backend.plainUrl_eq_self (base.bare_below rangeSegments pairs).1
  have hscheme : ((base.below rangeSegments).addPairs pairs).scheme ∈ Backend.schemes := by
    rw [Url.addPairs, if_neg hpairs]
    exact base.scheme_mem
  -- Of the URL that is asked for, no more matters than when it names a target.
  generalize hasked : (base.below rangeSegments).addPairs pairs = asked at *
  have htarget : (Signing.Target.ofUrl asked.render).isSome ↔ asked.render.utf8ByteSize ≤ 65534 ∧
      ∀ c ∈ base.host.render, c ∉ "\"\x60\x7b\x7d".toList := by
    rw [← hasked]
    exact isSome_ofUrl_iff hpairs
  constructor
  · rintro ⟨url, headers, hsends⟩
    have hsame := hsends.url_eq
    rw [hurl] at hsame
    cases hsame
    have hsent := hsends.canSend.target
    rw [hplain] at hsent
    obtain ⟨hsize, hhost⟩ := htarget.1 hsent
    refine ⟨hsize, hhost, fun signer hsigner => ?_⟩
    have hheaders := hsends.headers_eq
    unfold Client.signatureHeaders at hheaders
    rw [hsigner] at hheaders
    exact (Signer.signs_iff hsent).1 ⟨headers, hheaders, hsends.canSend.headers⟩
  · intro hcarry
    have hsent := htarget.2 ⟨hcarry.size, hcarry.host⟩
    obtain ⟨headers, hheaders, hlegal⟩ : ∃ headers,
        client.signatureHeaders world.seconds asked = .ok headers ∧
          ∀ header ∈ headers, Header.isValue header.value = true := by
      unfold Client.signatureHeaders
      cases hsigner : client.signer with
      | none => exact ⟨[], rfl, nofun⟩
      | some signer => exact (Signer.signs_iff hsent).2 (hcarry.signer signer hsigner)
    refine ⟨asked, headers, hurl, hheaders, hlegal, hscheme, ?_⟩
    rw [hplain]
    exact hsent

end Url

/-- After every history, each client is registered under its own base URL. -/
theorem isKeyed_registryAfter (outside : World) {registry : Registry} (h : registry.IsKeyed)
    (history : List Operation) : (registryAfter outside registry history).IsKeyed := by
  induction history generalizing registry with
  | nil => exact h
  | cons op rest ih =>
    rw [registryAfter_cons, Operation.run_eq_withClient]
    exact ih (Registry.isKeyed_obtain h _ _)

/-- The window of a query in whole seconds is half a minute at least. -/
theorem le_windowMillis (query : Query) : 30000 ≤ query.windowMillis := by
  unfold Query.windowMillis
  split
  · exact Nat.le_max_right _ _
  · exact Nat.le_refl _

/-- What the request for a metric says is what was compiled and asked for. -/
theorem says_render {base : Base} {query : Query} {method : Option Method} {text : String}
    (h : PromQL.compile query.conditions method (query.windowMillis / 1000) = .ok text) :
    Says base query method
      ((base.below rangeSegments).addPairs ((rangeQuery query method).pairs text)).render text
      (query.windowMillis / 1000) := by
  have hpairs : (rangeQuery query method).pairs text ≠ [] := List.cons_ne_nil _ _
  have hsplit := base.splitAt_render_below isPlain_rangeSegments hpairs
  obtain ⟨huser, hfragment⟩ :=
    base.bare_below rangeSegments ((rangeQuery query method).pairs text)
  have hplace : Path.written rangeSegments = "/api/v1/query_range".toList := by decide
  rw [huser, hfragment, Path.written_append, hplace] at hsplit
  have hwindow := le_windowMillis query
  refine ⟨?_, ?_, by omega, h, _, hsplit, formPairs_formOf _⟩
  · intro aggregation haggregation
    unfold Query.windowMillis
    rw [haggregation]
    rfl
  · intro hnone
    unfold Query.windowMillis
    rw [hnone]
    rfl

/-- Fetching a metric over a registered connection with a plain base URL sends a single request, if
it can be sent, and nothing otherwise. The request says what was compiled and asked for. -/
theorem requested {outside : World} (world : World) {history : List Operation}
    {connection : Connection} {query : Query} {base : Base} {client : Client}
    {method : Option Method}
    (hclient : (registryAfter outside .empty history).find? connection.baseUrl = some client)
    (hbase : connection.baseUrl.toList = base.text)
    (hmethod : Gateway.method query = .ok method)
    (hcompiles : ∃ window text, PromQL.compile query.conditions method window = .ok text) :
    ∃ url text window, Says base query method url text window ∧
      (CanCarry client base url → ∃ headers,
        (fetchMetric (registryAfter outside .empty history) world connection
          query).exchange.requests = [.backend { url, headers }]) ∧
      (¬CanCarry client base url →
        (fetchMetric (registryAfter outside .empty history) world connection
          query).exchange.requests = []) := by
  -- Whether conditions compile does not depend on the window.
  obtain ⟨text, htext⟩ : ∃ text,
      PromQL.compile query.conditions method (query.windowMillis / 1000) = .ok text := by
    obtain ⟨window, compiled⟩ := hcompiles
    rw [PromQL.exists_compile_iff] at compiled ⊢
    exact compiled
  have hkeyed := isKeyed_registryAfter outside Registry.isKeyed_empty history
  have hurl : client.baseUrl.toList = base.text := by
    rw [hkeyed _ _ hclient, hbase]
  have hrequests : (fetchMetric (registryAfter outside .empty history) world connection
      query).exchange.requests =
      (client.get world Client.rangePlace ((rangeQuery query method).pairs text)).requests :=
    (Registry.requests_withClient_of_find? hclient).trans (requests_telemetry hmethod htext)
  have hpairs : (rangeQuery query method).pairs text ≠ [] := List.cons_ne_nil _ _
  have hsends := exists_sends_iff world hurl hpairs
  refine ⟨_, text, _, says_render htext, ?_, ?_⟩
  · intro hcarry
    obtain ⟨url, headers, hsent⟩ := hsends.2 hcarry
    have hasked := hsent.url_eq
    rw [url_rangePlace hurl] at hasked
    cases hasked
    obtain ⟨huser, hfragment⟩ :=
      base.bare_below rangeSegments ((rangeQuery query method).pairs text)
    refine ⟨Backend.userHeaders ((base.below rangeSegments).addPairs
      ((rangeQuery query method).pairs text)) ++ headers, ?_⟩
    rw [hrequests, Client.requests_get_of_sends hsent]
    unfold Backend.requestOf
    rw [huser, hfragment]
  · intro hcarry
    have hnone := mt hsends.1 hcarry
    simp only [not_exists] at hnone
    obtain ⟨error, herror⟩ := Client.get_of_not_sends hnone
    rw [hrequests, herror]
    rfl

/-- A plain base URL with a port and a segment. -/
def promBase : Base where
  scheme := "http".toList
  host := .domain "prom.test".toList
  port := some 9090
  segments := ["prom".toList]
  scheme_mem := by decide
  read_host := by decide
  visible_host := List.all_iff_forall_prop.1 (by decide)
  percent_host := by decide
  port_le := by decide
  isPlain := by decide

/-- An outside where nothing is answered. -/
def silentWorld : World := .still (.nothing "timed out") 0

/-- The way to the backend behind this URL, with the token of a session if requests are signed. -/
def promConnection (token : Option String) : Connection where
  url := "http://prom.test:9090/prom/"
  aws := token.map fun token =>
    { accessKeyId := some "AKID", secretAccessKey := some "SECRET", sessionToken := some token }

/-- A probe of the backend. Though nothing is answered, it registers a client. -/
def promProbe (token : Option String) : Operation where
  connection := promConnection token
  task := .probe
  seconds := 0

/-- The mean of a gauge, with a label whose value holds signs that mean something in a form. -/
def signsQuery : Query where
  conditions := [{ key := Condition.gaugeKey, value := .text "up" },
    { key := "job", value := .text "a&b=+%41 é" }]
  startMillis := 1500
  endMillis := 2000999
  aggregation := some { methodName := "mean", bucketMillis := 45500 }

/-- The text that the query is compiled to. -/
def signsText : String := "avg(up\x7bjob=\"a&b=+%41 é\"\x7d)"

/-- The URL of the request for the query. -/
def signsUrl : String :=
  "http://prom.test:9090/prom/api/v1/query_range" ++
    "?query=avg%28up%7Bjob%3D%22a%26b%3D%2B%2541+%C3%A9%22%7D%29&start=1&end=2000&step=45"

/-- Without a signer the request is sent, and its query says what the signs were. -/
theorem requested_signsQuery :
    (fetchMetric (registryAfter silentWorld .empty [promProbe none]) silentWorld
        (promConnection none) signsQuery).exchange.requests =
          [.backend { url := signsUrl, headers := [] }] ∧
      Says promBase signsQuery (some .mean) signsUrl signsText 45 := by
  have hrequests : (fetchMetric (registryAfter silentWorld .empty [promProbe none]) silentWorld
      (promConnection none) signsQuery).exchange.requests =
        [.backend { url := signsUrl, headers := [] }] := by
    decide +kernel
  obtain ⟨client, hclient⟩ : ∃ client, (registryAfter silentWorld .empty [promProbe none]).find?
      (promConnection none).baseUrl = some client := ⟨_, rfl⟩
  have hbase : (promConnection none).baseUrl.toList = promBase.text := by decide +kernel
  have hmethod : Gateway.method signsQuery = .ok (some .mean) := by decide +kernel
  have hcompile : PromQL.compile signsQuery.conditions (some .mean) 45 = .ok signsText := by
    decide +kernel
  obtain ⟨url, text, window, hsays, hsent, hunsent⟩ :=
    requested silentWorld hclient hbase hmethod ⟨45, signsText, hcompile⟩
  have hwindow : window = 45 := hsays.window_of_aggregation _ rfl
  subst hwindow
  have htext := hsays.compile_eq
  rw [hcompile] at htext
  cases htext
  -- Something was sent, so the request that was sent is the one that could be.
  have hcarry : CanCarry client promBase url := by
    by_contra hcarry
    have hnone := hunsent hcarry
    rw [hrequests] at hnone
    cases hnone
  obtain ⟨headers, hheaders⟩ := hsent hcarry
  rw [hrequests] at hheaders
  cases hheaders
  exact ⟨hrequests, hsays⟩

/-- After a probe with a session token that cannot stand in a header, nothing is sent for the query,
though the client is registered, the base URL is plain and the conditions compile. -/
theorem requests_illegalToken :
    ((registryAfter silentWorld .empty [promProbe (some "a\nb")]).find?
        (promConnection none).baseUrl).isSome ∧
      (promConnection none).baseUrl.toList = promBase.text ∧
      Gateway.method signsQuery = .ok (some .mean) ∧
      PromQL.compile signsQuery.conditions (some .mean) 45 = .ok signsText ∧
      (fetchMetric (registryAfter silentWorld .empty [promProbe (some "a\nb")]) silentWorld
        (promConnection none) signsQuery).exchange.requests = [] :=
  ⟨by decide +kernel, by decide +kernel, by decide +kernel, by decide +kernel, by decide +kernel⟩

end MetricGateway.Gateway
