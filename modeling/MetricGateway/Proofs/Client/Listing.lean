import MetricGateway.Proofs.Client.Sending
import MetricGateway.Proofs.Payload.Range
import MetricGateway.Proofs.Gateway.History

/-!
# What comes of a listing

Two places look for an error of the backend: the one that sees the status of a response, and the one
that sees the payload in its body. `Verdict` says for each status and body what a listing comes to,
and `verdict_run` that it comes to that: a reported error is an error of the backend whatever the
status is, and of all other bodies only those with a success and a list of texts give a page. One
bad item is enough for the list not to be one of texts (`listedTexts?_eq_some_iff`).

A listing obtains its client first, so that the client is registered whatever comes of the listing,
and no other entry is touched. `decided` puts both together.
-/

namespace MetricGateway

open Success Payload

namespace Payload

variable {payload : Json} {texts : List String}

/-- A payload lists texts: it is an object whose data is a list of texts and of nothing else. -/
def ListsTexts (payload : Json) (texts : List String) : Prop :=
  ∃ entries, payload = .object entries ∧
    entries.lookup "data" = some (.array (texts.map Json.string))

/-- Texts are all that is in a list if and only if each item is one. -/
theorem mapM_asText?_eq_some_iff {items : List Json} :
    items.mapM Json.asText? = some texts ↔ items = texts.map Json.string := by
  induction items generalizing texts with
  | nil => cases texts <;> simp
  | cons item rest ih =>
    rw [List.mapM_cons]
    simp only [bind, pure, Option.bind_eq_some_iff, asText?_eq_some_iff, ih, Option.some.injEq]
    constructor
    · rintro ⟨text, rfl, others, rfl, rfl⟩
      rfl
    · intro h
      cases texts with
      | nil => cases h
      | cons text others =>
        obtain ⟨hitem, hrest⟩ := List.cons.inj h
        exact ⟨text, hitem, others, hrest, rfl⟩

/-- A payload is read as a list of texts if and only if it lists these. -/
theorem listedTexts?_eq_some_iff :
    listedTexts? payload = some texts ↔ ListsTexts payload texts := by
  unfold listedTexts? ListsTexts
  simp only [bind, Option.bind_eq_some_iff, get?_eq_some_iff, asList?_eq_some_iff,
    mapM_asText?_eq_some_iff]
  constructor
  · rintro ⟨_, ⟨_, ⟨entries, hpayload, hdata⟩, rfl⟩, rfl⟩
    exact ⟨entries, hpayload, hdata⟩
  · rintro ⟨entries, hpayload, hdata⟩
    exact ⟨_, ⟨_, ⟨entries, hpayload, hdata⟩, rfl⟩, rfl⟩

/-- A reported error goes before everything else. -/
theorem listTexts_of_reportsError (h : ReportsError payload) :
    listTexts payload = .error (.backend payload.print) := by
  unfold listTexts
  rw [if_pos (isError_iff.2 h)]

/-- Without a reported error, listed texts are read as they stand. -/
theorem listTexts_of_listsTexts (hreports : ¬ReportsError payload) (h : ListsTexts payload texts) :
    listTexts payload = .ok texts := by
  unfold listTexts
  rw [if_neg (mt isError_iff.1 hreports), listedTexts?_eq_some_iff.2 h]

/-- Without a reported error, a payload that does not list texts is invalid. -/
theorem listTexts_of_not_listsTexts (hreports : ¬ReportsError payload)
    (h : ∀ texts, ¬ListsTexts payload texts) : listTexts payload = .error (invalid payload) := by
  unfold listTexts
  rw [if_neg (mt isError_iff.1 hreports)]
  cases hlisted : listedTexts? payload with
  | none => rfl
  | some texts => exact absurd (listedTexts?_eq_some_iff.1 hlisted) (h texts)

end Payload

/-! ## Bodies -/

/-- A status that means success: it begins with a two. -/
def IsSuccess (status : Nat) : Prop := 200 ≤ status ∧ status ≤ 299

/-- The statuses of a success are told from all others. -/
theorem isSuccess_iff {status : Nat} : isSuccess status = true ↔ IsSuccess status := by
  unfold isSuccess IsSuccess
  rw [Bool.and_eq_true, decide_eq_true_eq, decide_eq_true_eq]
  omega

/-- A body reports an error: it is JSON that does. -/
def BodyReports (body : String) (payload : Json) : Prop :=
  Json.parse body = .ok payload ∧ ReportsError payload

/-- A body lists texts: it is JSON that does and reports no error. -/
def BodyLists (body : String) (texts : List String) : Prop :=
  ∃ payload, Json.parse body = .ok payload ∧ ¬ReportsError payload ∧ ListsTexts payload texts

namespace Client

variable {response : Response} {body : String} {payload : Json}

/-- The error that a body reports is found whatever the status is. -/
theorem reportedError?_of_bodyReports (h : BodyReports body payload) :
    reportedError? body = some (.response (.backend payload.print)) := by
  unfold reportedError?
  rw [h.1]
  exact if_pos (isError_iff.2 h.2)

/-- An error that is found in a body is one that the body reports. -/
theorem exists_bodyReports_of_reportedError? {details : String}
    (h : reportedError? body = some (.response (.backend details))) :
    ∃ payload, BodyReports body payload ∧ details = payload.print := by
  unfold reportedError? at h
  split at h
  · next payload hparse =>
    split at h
    · next hreports =>
      cases h
      exact ⟨payload, ⟨hparse, isError_iff.1 hreports⟩, rfl⟩
    · cases h
  · cases h

/-- A body that reports nothing has no error to report. -/
theorem reportedError?_of_not_bodyReports (h : ∀ payload, ¬BodyReports body payload) :
    reportedError? body = none := by
  unfold reportedError?
  cases hparse : Json.parse body with
  | error fault => rfl
  | ok payload =>
    have hreports : ¬ReportsError payload := fun hreports => h payload ⟨hparse, hreports⟩
    exact if_neg (mt isError_iff.1 hreports)

/-- The body of a success is looked at by those who asked for it. -/
theorem successfulBody_of_isSuccess (hbody : response.body = .ok body)
    (hstatus : IsSuccess response.status) : successfulBody response = .ok body := by
  unfold successfulBody
  rw [hbody]
  exact if_pos (isSuccess_iff.2 hstatus)

/-- Without a success, the body is looked at for a reported error only. -/
theorem successfulBody_of_not_isSuccess (hbody : response.body = .ok body)
    (hstatus : ¬IsSuccess response.status) :
    successfulBody response = .error ((reportedError? body).getD
      (.transport (.refused response.url response.status body))) := by
  unfold successfulBody
  rw [hbody]
  refine (if_neg (mt isSuccess_iff.1 hstatus)).trans ?_
  cases reportedError? body with
  | some error => rfl
  | none => rfl

/-- The texts that a response lists. -/
def listedTexts (response : Response) : Except Error (List String) := do
  let body ← successfulBody response
  let payload ← readPayload body
  (listTexts payload).mapError Error.response

/-- A listing has the texts that the response of the backend lists. -/
theorem result_getListing {client : Client} {world : World} {place : String}
    (hresponse : (client.get world place []).result = .ok response) :
    (client.getListing world place).result = listedTexts response := by
  unfold getListing getPayload listedTexts
  simp only [Exchange.result_bind, Exchange.result_lift, hresponse, ok_bind, bind_assoc]

/-- The error that a body reports is an error of the backend whatever the status is: it is found by
whoever sees the body first. -/
theorem listedTexts_of_bodyReports (hbody : response.body = .ok body)
    (h : BodyReports body payload) :
    listedTexts response = .error (.response (.backend payload.print)) := by
  unfold listedTexts
  by_cases hstatus : IsSuccess response.status
  · have hread : readPayload body = .ok payload := mapError_eq_ok_iff.2 h.1
    have htexts := listTexts_of_reportsError h.2
    simp only [successfulBody_of_isSuccess hbody hstatus, bind, Except.bind, hread, htexts]
    rfl
  · rw [successfulBody_of_not_isSuccess hbody hstatus, reportedError?_of_bodyReports h]
    rfl

/-- Any other response without a success is a failed call. -/
theorem listedTexts_of_not_isSuccess (hbody : response.body = .ok body)
    (hstatus : ¬IsSuccess response.status) (h : ∀ payload, ¬BodyReports body payload) :
    listedTexts response =
      .error (.transport (.refused response.url response.status body)) := by
  unfold listedTexts
  rw [successfulBody_of_not_isSuccess hbody hstatus, reportedError?_of_not_bodyReports h]
  rfl

/-- A success whose body lists texts gives these texts. -/
theorem listedTexts_of_bodyLists {texts : List String} (hbody : response.body = .ok body)
    (hstatus : IsSuccess response.status) (h : BodyLists body texts) :
    listedTexts response = .ok texts := by
  obtain ⟨payload, hparse, hreports, hlists⟩ := h
  have hread : readPayload body = .ok payload := mapError_eq_ok_iff.2 hparse
  have htexts := listTexts_of_listsTexts hreports hlists
  unfold listedTexts
  simp only [successfulBody_of_isSuccess hbody hstatus, bind, Except.bind, hread, htexts]
  rfl

/-- Any other success is no valid answer. -/
theorem listedTexts_of_not_bodyLists (hbody : response.body = .ok body)
    (hstatus : IsSuccess response.status) (h : ∀ payload, ¬BodyReports body payload)
    (hlists : ∀ texts, ¬BodyLists body texts) :
    ∃ details, listedTexts response = .error (.response (.invalidPayload details)) := by
  unfold listedTexts
  simp only [successfulBody_of_isSuccess hbody hstatus, bind, Except.bind]
  unfold readPayload
  cases hparse : Json.parse body with
  | error fault => exact ⟨_, rfl⟩
  | ok payload =>
    have hreports : ¬ReportsError payload := fun hreports => h payload ⟨hparse, hreports⟩
    have htexts := listTexts_of_not_listsTexts hreports fun texts hlisted =>
      hlists texts ⟨payload, hparse, hreports, hlisted⟩
    simp only [Except.mapError, htexts]
    exact ⟨_, rfl⟩

/-! ## Listings -/

/-- What a client is asked to list. -/
inductive Listing where
  | labels (limit : Nat)
  | values (label : String) (start : Option String) (offset limit : Nat)

namespace Listing

/-- The place of the backend that is asked. -/
def place : Listing → String
  | labels _ => labelsPlace
  | values label _ _ _ => valuesPlace label

/-- The page that is wanted of the listed texts. -/
def page : Listing → List String → Page
  | labels limit, texts => .ofLabels texts limit
  | values _ start offset limit, texts => .ofValues texts start offset limit

/-- Lists what a client is asked for. -/
def run (client : Client) (world : World) : Listing → Exchange Page
  | labels limit => client.labels world limit
  | values label start offset limit => client.labelValues world label start offset limit

/-- A page holds listed texts, each as often as it is listed at most, and in their order. -/
theorem values_page_sublist (listing : Listing) (texts : List String) :
    (listing.page texts).values.Sublist texts := by
  cases listing with
  | labels limit => exact List.take_sublist _ _
  | values label start offset limit =>
    have hmatching : (Page.matching texts start).Sublist texts := by
      cases start with
      | none => exact List.Sublist.refl _
      | some start => exact List.filter_sublist
    unfold page Page.ofValues
    dsimp only
    split
    · exact List.nil_sublist _
    · exact ((List.take_sublist _ _).trans (List.drop_sublist _ _)).trans hmatching

/-- A listing takes its page of the texts that the response lists. -/
theorem result_run {client : Client} {world : World} {listing : Listing}
    (hresponse : (client.get world listing.place []).result = .ok response) :
    (listing.run client world).result = (listedTexts response).map listing.page := by
  have hlisting := result_getListing hresponse
  cases listing with
  | labels limit =>
    unfold run Client.labels
    rw [Exchange.result_bind, show (client.getListing world labelsPlace).result = _ from hlisting]
    cases listedTexts response with
    | error error => rfl
    | ok texts => rfl
  | values label start offset limit =>
    unfold run labelValues
    rw [Exchange.result_bind, show (client.getListing world (valuesPlace label)).result = _
      from hlisting]
    cases listedTexts response with
    | error error => rfl
    | ok texts => rfl

/-- What a response with a whole body is taken for. -/
inductive Verdict (listing : Listing) (response : Response) (body : String) :
    Except Error Page → Prop where
  /-- The body reports an error. The status has no say. -/
  | backend {payload : Json} (hreports : BodyReports body payload) :
    Verdict listing response body (.error (.response (.backend payload.print)))
  /-- The status is no success. -/
  | refused (hreports : ∀ payload, ¬BodyReports body payload)
    (hstatus : ¬IsSuccess response.status) :
    Verdict listing response body
      (.error (.transport (.refused response.url response.status body)))
  /-- The status is a success, and the body lists no texts. -/
  | invalid (hreports : ∀ payload, ¬BodyReports body payload) (hstatus : IsSuccess response.status)
    (hlists : ∀ texts, ¬BodyLists body texts) (details : String) :
    Verdict listing response body (.error (.response (.invalidPayload details)))
  /-- The status is a success, and the body lists texts. -/
  | page {texts : List String} (hstatus : IsSuccess response.status)
    (hlists : BodyLists body texts) :
    Verdict listing response body (.ok (listing.page texts))

/-- Every response with a whole body is taken for what its status and its body make it. -/
theorem verdict_run {client : Client} {world : World} {listing : Listing}
    (hresponse : (client.get world listing.place []).result = .ok response)
    (hbody : response.body = .ok body) :
    Verdict listing response body (listing.run client world).result := by
  rw [result_run hresponse]
  -- A reported error is looked for before the status is.
  by_cases hreports : ∃ payload, BodyReports body payload
  · obtain ⟨payload, hreports⟩ := hreports
    rw [listedTexts_of_bodyReports hbody hreports]
    exact .backend hreports
  rw [not_exists] at hreports
  by_cases hstatus : IsSuccess response.status
  · by_cases hlists : ∃ texts, BodyLists body texts
    · obtain ⟨texts, hlists⟩ := hlists
      rw [listedTexts_of_bodyLists hbody hstatus hlists]
      exact .page hstatus hlists
    · rw [not_exists] at hlists
      obtain ⟨details, hinvalid⟩ := listedTexts_of_not_bodyLists hbody hstatus hreports hlists
      rw [hinvalid]
      exact .invalid hreports hstatus hlists details
  · rw [listedTexts_of_not_isSuccess hbody hstatus hreports]
    exact .refused hreports hstatus

/-- How the status and the body of a response decide what comes of a listing. -/
structure Answered (listing : Listing) (response : Response) (body : String)
    (result : Except Error Page) : Prop where
  /-- A success whose body lists texts gives the page of these texts, and nothing else does. -/
  ok_iff : ∀ page, result = .ok page ↔
    IsSuccess response.status ∧ ∃ texts, BodyLists body texts ∧ page = listing.page texts
  /-- The page holds listed texts in the order of the list. -/
  sublist : ∀ page, result = .ok page → ∃ texts, BodyLists body texts ∧ page.values.Sublist texts
  /-- An error that the body reports is an error of the backend, whatever the status is. The text of
  the payload goes with it. -/
  backend_iff : ∀ details, result = .error (.response (.backend details)) ↔
    ∃ payload, BodyReports body payload ∧ details = payload.print
  /-- Any other response without a success is a failed call. -/
  transport_iff : ∀ cause, result = .error (.transport cause) ↔
    (∀ payload, ¬BodyReports body payload) ∧ ¬IsSuccess response.status ∧
      cause = .refused response.url response.status body
  /-- Any other success has no valid payload. -/
  invalid_iff : (∃ details, result = .error (.response (.invalidPayload details))) ↔
    (∀ payload, ¬BodyReports body payload) ∧ IsSuccess response.status ∧
      ∀ texts, ¬BodyLists body texts
  /-- Nothing else can come of it. -/
  exhaustive : (∃ page, result = .ok page) ∨
    (∃ details, result = .error (.response (.backend details))) ∨
    (∃ cause, result = .error (.transport cause)) ∨
      ∃ details, result = .error (.response (.invalidPayload details))

/-- The verdict on a response is the only one that its status and its body allow. -/
theorem answered_run {client : Client} {world : World} {listing : Listing}
    (hresponse : (client.get world listing.place []).result = .ok response)
    (hbody : response.body = .ok body) :
    Answered listing response body (listing.run client world).result := by
  -- From left to right a result has only one verdict, and from right to left the body has it.
  have hverdict := verdict_run hresponse hbody
  have hrun := result_run hresponse
  constructor
  case ok_iff =>
    intro page
    constructor
    · intro h
      rw [h] at hverdict
      cases hverdict with
      | page hstatus hlists => exact ⟨hstatus, _, hlists, rfl⟩
    · rintro ⟨hstatus, texts, hlists, rfl⟩
      rw [hrun, listedTexts_of_bodyLists hbody hstatus hlists]
      rfl
  case sublist =>
    intro page h
    rw [h] at hverdict
    cases hverdict with
    | page hstatus hlists => exact ⟨_, hlists, listing.values_page_sublist _⟩
  case backend_iff =>
    intro details
    constructor
    · intro h
      rw [h] at hverdict
      cases hverdict with
      | backend hreports => exact ⟨_, hreports, rfl⟩
    · rintro ⟨payload, hreports, rfl⟩
      rw [hrun, listedTexts_of_bodyReports hbody hreports]
      rfl
  case transport_iff =>
    intro cause
    constructor
    · intro h
      rw [h] at hverdict
      cases hverdict with
      | refused hreports hstatus => exact ⟨hreports, hstatus, rfl⟩
    · rintro ⟨hreports, hstatus, rfl⟩
      rw [hrun, listedTexts_of_not_isSuccess hbody hstatus hreports]
      rfl
  case invalid_iff =>
    constructor
    · rintro ⟨details, h⟩
      rw [h] at hverdict
      cases hverdict with
      | invalid hreports hstatus hlists => exact ⟨hreports, hstatus, hlists⟩
    · rintro ⟨hreports, hstatus, hlists⟩
      obtain ⟨details, hinvalid⟩ := listedTexts_of_not_bodyLists hbody hstatus hreports hlists
      rw [hrun, hinvalid]
      exact ⟨details, rfl⟩
  case exhaustive =>
    generalize (listing.run client world).result = result at hverdict
    cases hverdict with
    | backend => exact .inr (.inl ⟨_, rfl⟩)
    | refused => exact .inr (.inr (.inl ⟨_, rfl⟩))
    | invalid => exact .inr (.inr (.inr ⟨_, rfl⟩))
    | page => exact .inl ⟨_, rfl⟩

/-! ## Listings for a connection -/

/-- A listing for a connection, with the client that is registered for it. -/
def step (registry : Registry) (world : World) (connection : Connection) (listing : Listing) :
    Step Page :=
  registry.withClient world connection fun client => listing.run client world

/-- The values of a field are listed by such a step. -/
theorem fieldValues_eq_step (registry : Registry) (world : World) (connection : Connection)
    (field : String) (start : Option String) (offset limit : Nat) :
    Gateway.fieldValues registry world connection field start offset limit =
      step registry world connection (.values (Gateway.labelOf field) start offset limit) := rfl

/-- The names of fields are listed by such a step, and the selecting keys come before them. -/
theorem fieldNames_eq_map_step (registry : Registry) (world : World) (connection : Connection)
    (limit : Nat) :
    Gateway.fieldNames registry world connection limit =
      (step registry world connection (.labels limit)).map
        (Gateway.withNames Condition.reservedKeys) := by
  have hnames : ∀ client : Client,
      (do
        let page ← client.labels world limit
        pure (Gateway.withNames Condition.reservedKeys page) : Exchange Page) =
        (client.labels world limit).map (Gateway.withNames Condition.reservedKeys) := by
    intro client
    exact Exchange.bind_pure_eq_map _ _
  unfold Gateway.fieldNames step Registry.withClient Step.map
  simp only [hnames, Exchange.map_andThen]
  rfl

/-- What a listing comes to once it has its client. -/
structure Decided (registry : Registry) (world : World) (connection : Connection)
    (listing : Listing) (client : Client) : Prop where
  /-- A whole response decides what comes of the listing. -/
  answered : ∀ response body, (client.get world listing.place []).result = .ok response →
    response.body = .ok body →
    Answered listing response body (step registry world connection listing).exchange.result
  /-- The client is registered, whatever comes of the listing. -/
  registered :
    (step registry world connection listing).registry.find? connection.baseUrl = some client
  /-- All other entries are what they were. -/
  others : ∀ url, url ≠ connection.baseUrl →
    (step registry world connection listing).registry.find? url = registry.find? url

/-- A listing that has a client is decided by the response, keeps its client registered, and touches
no other entry. -/
theorem decided {registry : Registry} {world : World} {connection : Connection}
    {client : Client} (h : (registry.obtain world connection).exchange.result = .ok client)
    (listing : Listing) : Decided registry world connection listing client where
  answered response body hresponse hbody := by
    have hresult : (step registry world connection listing).exchange.result =
        (listing.run client world).result := by
      change ((registry.obtain world connection).exchange >>= _).result = _
      rw [Exchange.result_bind, h]
      rfl
    rw [hresult]
    exact answered_run hresponse hbody
  registered := Registry.find?_registry_obtain_of_ok h
  others url hne := registry.find?_registry_obtain_of_ne world hne

/-- An outside whose backend reports an error and says so in the status too. -/
def failingWorld : World :=
  .still (.complete {
    status := 503
    contentType := "application/json"
    body := Text.utf8 "\x7b\"status\":\"error\"\x7d" }) 0

/-- The details of a connection without signatures. -/
def plainConnection : Connection where
  url := "http://prom.test/"

/-- The client that is built for this connection. -/
def plainClient : Client where
  baseUrl := "http://prom.test"
  timeoutSeconds := 30
  nanPolicy := .zero
  signer := none

/-- The URL of the values of a label. -/
def jobUrl : Url where
  scheme := "http".toList
  host := some (.domain "prom.test".toList)
  path := .segments ["api".toList, "v1".toList, "label".toList, "job".toList, "values".toList]

/-- The first listing on a connection registers its client although the backend reports an
error. -/
theorem decided_failingWorld :
    (Registry.empty.obtain failingWorld plainConnection).exchange.result = .ok plainClient ∧
      (step .empty failingWorld plainConnection (.values "job" none 0 10)).exchange.result =
        .error (.response (.backend "\x7b\"status\":\"error\"\x7d")) ∧
      (step .empty failingWorld plainConnection (.values "job" none 0 10)).registry.find?
        "http://prom.test" = some plainClient := by
  have h : Decided .empty failingWorld plainConnection (.values "job" none 0 10) plainClient :=
    decided rfl (.values "job" none 0 10)
  have hreported : reportedError? "\x7b\"status\":\"error\"\x7d" =
      some (.response (.backend "\x7b\"status\":\"error\"\x7d")) := by
    decide +kernel
  have hsends : plainClient.Sends failingWorld (valuesPlace "job") [] jobUrl [] :=
    ⟨by decide +kernel, rfl, ⟨List.forall_mem_nil _, by decide, by decide +kernel⟩⟩
  have hbackend := ((h.answered _ _ (result_get_still hsends) rfl).backend_iff _).2
    (exists_bodyReports_of_reportedError? hreported)
  exact ⟨rfl, hbackend, h.registered⟩

end Listing

end Client

end MetricGateway
