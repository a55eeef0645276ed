import Mathlib.Data.Bool.AllAny
import MetricGateway.Proofs.Json.Value
import MetricGateway.Server

/-!
# The course of a request

A request to the server takes one of two courses: it is answered without a client, or it goes on
with the client for the connection in its body (`Course`, `course`). What a request is told if it is
refused, because its body is not accepted or names no field, is told on the first course only
(`IsRefusal`): no outcome of an operation of the gateway reads like that.
-/

namespace MetricGateway.Server

open Json

/-! ## Answers -/

/-- The answer tells that the body is not accepted. -/
def IsRejection (answer : Answer) : Prop :=
  ∃ rejection, answer.status = (rejected rejection).status ∧ answer.body = (rejected rejection).body

/-- The answer tells that the query names no field although it has to. -/
def SaysFieldRequired (answer : Answer) : Prop :=
  answer.status = (failed fieldRequired).status ∧ answer.body = (failed fieldRequired).body

/-- The answer tells that the request is refused. -/
def IsRefusal (answer : Answer) : Prop := IsRejection answer ∨ SaysFieldRequired answer

/-- The key in the headers makes no difference to what is told. -/
theorem isRefusal_withKey {apiKey : String} {answer : Answer} :
    IsRefusal (withKey apiKey answer) ↔ IsRefusal answer := by
  unfold withKey
  split <;> exact Iff.rfl

/-- A refusal has the status of a failure. -/
theorem IsRefusal.status_eq {answer : Answer} (h : IsRefusal answer) : answer.status = 500 := by
  rcases h with ⟨rejection, hstatus, -⟩ | ⟨hstatus, -⟩
  · exact hstatus
  · exact hstatus

/-- The value of the report of a failure. -/
def failureJson (summary : String) (details : Json) : Json :=
  .object [("_type", .string "RemoteMirrorError"), ("details", details),
    ("summary", .string summary)]

/-- The details of a refusal, and what it says about them. -/
theorem IsRefusal.exists_body {answer : Answer} (h : IsRefusal answer) :
    (∃ rejection : Rejection, answer.body = (failureJson "Request validation errors."
      (.object [("detail", .string rejection.message)])).print) ∨
    answer.body = (failureJson "Internal server error."
      (.object [("message", .string fieldRequired)])).print := by
  rcases h with ⟨rejection, -, hbody⟩ | ⟨-, hbody⟩
  · exact .inl ⟨rejection, hbody⟩
  · exact .inr hbody

/-! ### Telling answers apart -/

/-- Details that are told apart by their text. -/
def IsDetails (details : Json) : Prop := IsPlain (maxDepth - 1) details

/-- A text may be the details. -/
theorem isDetails_string (s : String) : IsDetails (.string s) := .string s

/-- A list of texts may be the details. -/
theorem isDetails_strings (texts : List String) : IsDetails (.array (texts.map Json.string)) := by
  refine .array fun item hitem => ?_
  obtain ⟨s, -, rfl⟩ := List.mem_map.1 hitem
  exact .string s

/-- An object with one text may be the details. -/
theorem isDetails_entry (key text : String) : IsDetails (.object [(key, .string text)]) := by
  refine .object (List.pairwise_singleton _ _) fun entry hentry => ?_
  rw [List.mem_singleton.1 hentry]
  exact .string text

/-- A report that says its kind and gives details is told apart by its text. -/
theorem isPlain_detailed (kind : String) {key : String} (text : String) {details : Json}
    (hkey : "details" < key) (h : IsDetails details) :
    IsPlain maxDepth (.object [("_type", .string kind), ("details", details),
      (key, .string text)]) := by
  have htype : "_type" < "details" := by decide
  have hrest : ["details", key].Pairwise (· < ·) :=
    List.pairwise_cons.2 ⟨List.forall_mem_singleton.2 hkey, List.pairwise_singleton _ key⟩
  have hascending : ["_type", "details", key].Pairwise (· < ·) :=
    List.pairwise_cons.2 ⟨List.forall_mem_cons.2
      ⟨htype, List.forall_mem_singleton.2 (String.lt_trans htype hkey)⟩, hrest⟩
  refine .object hascending fun entry hentry => ?_
  rcases List.mem_cons.1 hentry with rfl | hentry
  · exact .string kind
  rcases List.mem_cons.1 hentry with rfl | hentry
  · exact h
  rw [List.mem_singleton.1 hentry]
  exact .string text

/-- A failure is a plain value. -/
theorem isPlain_failureJson (summary : String) {details : Json} (h : IsDetails details) :
    IsPlain maxDepth (failureJson summary details) :=
  isPlain_detailed "RemoteMirrorError" summary (by decide) h

/-- The texts of two failures are equal only if they tell the same. -/
theorem failureJson_print_inj {summary summary' : String} {details details' : Json}
    (hdetails : IsDetails details) (hdetails' : IsDetails details')
    (h : (failureJson summary details).print = (failureJson summary' details').print) :
    summary = summary' ∧ details = details' := by
  have heq := (isPlain_failureJson summary hdetails).print_inj (isPlain_failureJson _ hdetails') h
  have hentries := List.cons.inj (List.cons.inj (Json.object.inj heq)).2
  have hsummary := (List.cons.inj hentries.2).1
  exact ⟨Json.string.inj (Prod.mk.inj hsummary).2, (Prod.mk.inj hentries.1).2⟩

/-- The text of an object begins with its first entry. -/
theorem take_print_object (kind : String) (more : List (String × Json)) {count : Nat}
    (h : count ≤ (renderText "_type" ++ ':' :: renderText kind).length + 1) :
    (Json.object (("_type", .string kind) :: more)).print.toList.take count =
      ('\x7b' :: (renderText "_type" ++ ':' :: renderText kind)).take count := by
  unfold print
  rw [String.toList_ofList, render, renderEntries_cons, render]
  have htext : '\x7b' :: (renderText "_type" ++
    ':' :: (renderText kind ++ renderMoreEntries more) ++
      ['\x7d']) = ('\x7b' :: (renderText "_type" ++ ':' :: renderText kind)) ++
        (renderMoreEntries more ++ ['\x7d']) := by
    simp only [List.cons_append, List.append_assoc]
  rw [htext, List.take_append_of_le_length]
  rw [List.length_cons]
  exact h

/-- A report of another kind is no refusal. -/
theorem not_isRefusal_of_kind {status : Nat} {kind : String} {more : List (String × Json)}
    (h : ('\x7b' :: (renderText "_type" ++ ':' :: renderText kind)).take 12 ≠
      "\x7b\"_type\":\"Re".toList)
    (hlength : 12 ≤ (renderText "_type" ++ ':' :: renderText kind).length + 1) :
    ¬IsRefusal (.json status (.object (("_type", .string kind) :: more))) := by
  intro hrefusal
  have hfront (summary : String) (details : Json) :
      (failureJson summary details).print.toList.take 12 = "\x7b\"_type\":\"Re".toList := by
    unfold failureJson
    rw [take_print_object _ _ (by decide)]
    decide
  -- The text of either refusal begins like this one then, with the kind of all failures.
  refine h ?_
  rw [← take_print_object kind more hlength]
  rcases hrefusal.exists_body with ⟨rejection, hbody⟩ | hbody
  · exact (congrArg (fun body => body.toList.take 12) hbody).trans (hfront _ _)
  · exact (congrArg (fun body => body.toList.take 12) hbody).trans (hfront _ _)

/-- A failure that sums up otherwise is no refusal. -/
theorem not_isRefusal_of_summary {summary : String} {details : Json} (h : IsDetails details)
    (hrejected : summary ≠ "Request validation errors.")
    (hfailed : summary ≠ "Internal server error.") : ¬IsRefusal (failure summary details) := by
  intro hrefusal
  rcases hrefusal.exists_body with ⟨rejection, hbody⟩ | hbody
  · exact hrejected (failureJson_print_inj h (isDetails_entry _ _) hbody).1
  · exact hfailed (failureJson_print_inj h (isDetails_entry _ _) hbody).1

/-- What the messages of errors begin with. -/
def errorLabels : List String :=
  ["Query error: ", "Response error: ", "Transport error: ", "Credential error: ",
    "Signing error: ", "Invalid configuration. "]

/-- Every error says its label first. -/
theorem exists_label (error : Error) :
    ∃ label ∈ errorLabels, ∃ text, error.message = label ++ text := by
  cases error with
  | query cause => exact ⟨_, by decide, cause.message, rfl⟩
  | response cause => exact ⟨_, by decide, cause.message, rfl⟩
  | transport cause => exact ⟨_, by decide, cause.message, rfl⟩
  | credential cause => exact ⟨_, by decide, cause.message, rfl⟩
  | signing => exact ⟨"Signing error: ", by decide, "failed to create canonical request", by decide⟩
  | configuration cause => exact ⟨_, by decide, cause.message, rfl⟩

/-- No error of the gateway has the message for an absent field. -/
theorem message_ne_fieldRequired (error : Error) : error.message ≠ fieldRequired := by
  -- The first nine characters tell the labels from it.
  have hlabels : ∀ label ∈ errorLabels, 9 ≤ label.toList.length ∧
      label.toList.take 9 ≠ fieldRequired.toList.take 9 := by
    decide
  obtain ⟨label, hlabel, text, hmessage⟩ := exists_label error
  obtain ⟨hlength, htake⟩ := hlabels label hlabel
  intro h
  refine htake ?_
  rw [← h, hmessage, String.toList_append, List.take_append_of_le_length hlength]

/-- An error of the gateway with its message only is no refusal. -/
theorem not_isRefusal_failed (error : Error) : ¬IsRefusal (failed error.message) := by
  intro hrefusal
  rcases hrefusal.exists_body with ⟨rejection, hbody⟩ | hbody
  · have hsummary := (failureJson_print_inj (isDetails_entry _ _) (isDetails_entry _ _) hbody).1
    exact absurd hsummary (by decide)
  · have hdetails := (failureJson_print_inj (isDetails_entry _ _) (isDetails_entry _ _) hbody).2
    have hentry := (List.cons.inj (Json.object.inj hdetails)).1
    exact message_ne_fieldRequired error (Json.string.inj (Prod.mk.inj hentry).2)

/-- A report on a backend is no refusal, whatever status the backend gives. -/
theorem not_isRefusal_healthAnswer (health : Client.Health) : ¬IsRefusal (healthAnswer health) := by
  unfold healthAnswer
  split
  · exact not_isRefusal_of_kind (by decide) (by decide)
  · exact not_isRefusal_of_kind (by decide) (by decide)

/-- The report of a failure to fetch a metric is no refusal. -/
theorem not_isRefusal_metricFailed (query : Query) (error : Error) :
    ¬IsRefusal (metricFailed query error) := by
  have hunexpected (message : String) :
      ¬IsRefusal (failure "Unexpected error." (.string message)) :=
    not_isRefusal_of_summary (isDetails_string _) (by decide) (by decide)
  cases error with
  | query cause =>
    cases cause with
    | requiredSelector message => exact not_isRefusal_of_kind (by decide) (by decide)
    | unsupportedAggregation method =>
      exact not_isRefusal_of_summary (isDetails_string _) (by decide) (by decide)
  | response cause =>
    cases cause with
    | ambiguousMetric fields =>
      exact not_isRefusal_of_summary (isDetails_strings _) (by decide) (by decide)
    | metricNotFound text => exact not_isRefusal_of_kind (by decide) (by decide)
    | invalidPayload details =>
      exact not_isRefusal_of_summary (isDetails_string _) (by decide) (by decide)
    | backend payload => exact not_isRefusal_of_summary (isDetails_string _) (by decide) (by decide)
  | transport cause => exact hunexpected _
  | credential cause => exact hunexpected _
  | signing => exact hunexpected _
  | configuration cause => exact hunexpected _

/-- The report of a success is no refusal. -/
theorem not_isRefusal_json (value : Json) : ¬IsRefusal (.json 200 value) := by
  intro hrefusal
  have hstatus : 200 = 500 := hrefusal.status_eq
  exact absurd hstatus (by decide)

/-! ## Courses -/

/-- The routes on which a query is asked. -/
def queryRoutes : List Route := [.metric, .fieldNames, .fieldValues]

/-- A request whose body is accepted asks with a connection. -/
inductive AsksWith (request : Request) : Connection → Prop where
  | connection {asked : ConnectionRequest} (method : request.method = "POST")
    (route_eq : Route.ofPath request.path = some .connection)
    (body : readBody ConnectionRequest.read request = .ok asked) :
    AsksWith request asked.connection
  | query {route : Route} {asked : QueryRequest} (method : request.method = "POST")
    (route_eq : Route.ofPath request.path = some route) (route_mem : route ∈ queryRoutes)
    (body : readBody QueryRequest.read request = .ok asked) : AsksWith request asked.connection

/-- The courses that a request can take. -/
inductive Course (registry : Registry) (request : Request) : Prop where
  /-- It is answered without a client, and without regard to the outside. -/
  | alone (answer : Answer)
    (eq : ∀ world, dispatch registry world request = handledAlone registry answer)
  /-- It goes on with the client for its connection. No outcome reads like a refusal. -/
  | withClient {α : Type} {connection : Connection} (asks : AsksWith request connection)
    (act : World → Client → Exchange α) {answer : α → Answer} {failed : Error → Answer}
    (answers : ∀ value, ¬IsRefusal (answer value)) (failures : ∀ error, ¬IsRefusal (failed error))
    (eq : ∀ world, dispatch registry world request =
      handledBy (registry.withClient world connection (act world)) answer failed)

section

variable {registry : Registry} {world : World} {request : Request} {route : Route}

/-- The root has no need of a client. -/
theorem exists_handleRoute_root (registry : Registry) (request : Request) :
    ∃ answer, ∀ world, handleRoute registry world request .root = handledAlone registry answer := by
  obtain ⟨method, target, contentType, body⟩ := request
  by_cases hget : method = "GET"
  · subst hget
    exact ⟨_, fun world => rfl⟩
  by_cases hhead : method = "HEAD"
  · subst hhead
    exact ⟨_, fun world => rfl⟩
  refine ⟨.notAllowed Route.root.allowed, fun world => ?_⟩
  unfold handleRoute
  split
  · next h => exact absurd h hget
  · next h => exact absurd h hhead
  · rfl
  · next hroot => exact absurd rfl hroot
  · rfl

/-- Posted bodies are handled on all other routes. -/
theorem handleRoute_of_post (hroute : route ≠ .root) (hmethod : request.method = "POST") :
    handleRoute registry world request route = handlePosted registry world request route := by
  obtain ⟨method, target, contentType, body⟩ := request
  subst hmethod
  cases route with
  | root => exact absurd rfl hroute
  | connection => rfl
  | metric => rfl
  | fieldNames => rfl
  | fieldValues => rfl

/-- Another method is not allowed there. -/
theorem handleRoute_of_not_post (hroute : route ≠ .root) (hmethod : request.method ≠ "POST") :
    handleRoute registry world request route =
      handledAlone registry (.notAllowed route.allowed) := by
  unfold handleRoute
  split
  · exact absurd rfl hroute
  · exact absurd rfl hroute
  · exact absurd rfl hroute
  · next h => exact absurd h hmethod
  · rfl

/-- A request to a route that is not the root is handled as a posted one. -/
theorem dispatch_of_post (hpath : Route.ofPath request.path = some route) (hroute : route ≠ .root)
    (hmethod : request.method = "POST") :
    dispatch registry world request = handlePosted registry world request route := by
  unfold dispatch
  rw [hpath]
  exact handleRoute_of_post hroute hmethod

/-- A body that is not accepted is rejected; one that is accepted is handled. -/
theorem handleBody_of_error {α : Type} {read : Json.Reader α} {rejection : Rejection}
    (h : readBody read request = .error rejection) (handle : α → Handled) :
    handleBody read registry request handle = handledAlone registry (rejected rejection) := by
  unfold handleBody
  rw [h]

/-- A body that is read is handled. -/
theorem handleBody_of_ok {α : Type} {read : Json.Reader α} {value : α}
    (h : readBody read request = .ok value) (handle : α → Handled) :
    handleBody read registry request handle = handle value := by
  unfold handleBody
  rw [h]

/-- A query for a metric whose body is accepted is fetched. -/
theorem dispatch_metric {asked : QueryRequest} (hpath : Route.ofPath request.path = some .metric)
    (hmethod : request.method = "POST") (hbody : readBody QueryRequest.read request = .ok asked) :
    dispatch registry world request = handleMetric registry world asked :=
  (dispatch_of_post hpath (by decide) hmethod).trans (handleBody_of_ok hbody _)

/-- If a posted body takes a course whenever it is accepted, the request takes a course. -/
theorem course_of_handleBody {α : Type} {read : Json.Reader α} {handle : World → α → Handled}
    (hposted : ∀ world, dispatch registry world request =
      handleBody read registry request (handle world))
    (haccepted : ∀ value, readBody read request = .ok value →
      (∀ world, dispatch registry world request = handle world value) → Course registry request) :
    Course registry request := by
  cases hbody : readBody read request with
  | error rejection =>
    exact .alone (rejected rejection) fun world =>
      (hposted world).trans (handleBody_of_error hbody _)
  | ok value =>
    exact haccepted value hbody fun world => (hposted world).trans (handleBody_of_ok hbody _)

end

/-- Every request takes one of the courses. -/
theorem course (registry : Registry) (request : Request) : Course registry request := by
  cases hpath : Route.ofPath request.path with
  | none =>
    refine .alone .notFound fun world => ?_
    unfold dispatch
    rw [hpath]
  | some route =>
    have hdispatch (world : World) :
        dispatch registry world request = handleRoute registry world request route := by
      unfold dispatch
      rw [hpath]
    -- The root answers alone, and so does a place that is not asked with the right method.
    by_cases hroot : route = .root
    · subst hroot
      obtain ⟨answer, hanswer⟩ := exists_handleRoute_root registry request
      exact .alone answer fun world => (hdispatch world).trans (hanswer world)
    by_cases hmethod : request.method = "POST"
    · have hposted (world : World) : dispatch registry world request =
          handlePosted registry world request route := dispatch_of_post hpath hroot hmethod
      cases route with
      | root => exact absurd rfl hroot
      | connection =>
        refine course_of_handleBody hposted fun asked hbody heq => ?_
        exact .withClient (.connection hmethod hpath hbody) (fun world client => client.probe world)
          not_isRefusal_healthAnswer not_isRefusal_failed heq
      | metric =>
        refine course_of_handleBody hposted fun asked hbody heq => ?_
        exact .withClient (.query hmethod hpath (by decide) hbody)
          (fun world => Gateway.telemetry world asked.query)
          (fun telemetry => not_isRefusal_json (telemetryJson telemetry))
          (not_isRefusal_metricFailed asked.query) heq
      | fieldNames =>
        refine course_of_handleBody hposted fun asked hbody heq => ?_
        exact .withClient (.query hmethod hpath (by decide) hbody)
          (fun world client => do
            let page ← client.labels world asked.query.limit
            pure (Gateway.withNames Condition.reservedKeys page))
          (fun page => not_isRefusal_json (namesJson page)) not_isRefusal_failed heq
      | fieldValues =>
        refine course_of_handleBody hposted fun asked hbody heq => ?_
        -- A query without a field is refused before the registry is asked.
        unfold handleFieldValues at heq
        dsimp only at heq
        cases hfield : asked.query.field with
        | none =>
          rw [hfield] at heq
          exact .alone (failed fieldRequired) heq
        | some field =>
          rw [hfield] at heq
          exact .withClient (.query hmethod hpath (by decide) hbody)
            (fun world client => client.labelValues world (Gateway.labelOf field.name)
              asked.query.valueStart asked.query.effectiveOffset asked.query.limit)
            (fun page => not_isRefusal_json (valuesJson page)) not_isRefusal_failed heq
    · exact .alone _ fun world => (hdispatch world).trans (handleRoute_of_not_post hroot hmethod)

end MetricGateway.Server
