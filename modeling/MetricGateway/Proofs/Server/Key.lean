import MetricGateway.Proofs.Gateway.History
import MetricGateway.Proofs.Signing.Headers
import MetricGateway.Proofs.Text.Utf8
import MetricGateway.Server

/-!
# The key of the server

The key is put on an answer after everything else has been decided, so it stands on every answer,
whatever the request was and wherever it led (`history_eq_map`). It stands there once if it can
stand in a header, and not at all otherwise, and nothing else depends on it (`marked`). Whether it
can stand in a header is a question about its bytes (`isValue_iff_isLegal`).
-/

namespace MetricGateway

/-! ## Texts that can stand in a header -/

namespace Header

open Text

/-- A byte that can stand in the value of a header: no control but the tab. -/
def IsLegalByte (b : UInt8) : Prop := (0x20 ≤ b.toNat ∧ b.toNat ≠ 0x7F) ∨ b.toNat = 0x09

/-- A text can stand in the value of a header: each of its bytes can. -/
def IsLegal (text : String) : Prop := ∀ b ∈ utf8 text, IsLegalByte b

/-- A character can stand in a header if and only if its number is that of such a byte. -/
theorem isValueChar_iff {c : Char} :
    isValueChar c = true ↔ (0x20 ≤ c.toNat ∧ c.toNat ≠ 0x7F) ∨ c.toNat = 0x09 := by
  have htab : c = '\t' ↔ c.toNat = 0x09 := by
    constructor
    · rintro rfl
      rfl
    · intro h
      rw [← Char.ofNat_toNat c, h]
  unfold isValueChar
  rw [Bool.or_eq_true, Bool.and_eq_true, decide_eq_true_eq, decide_eq_true_eq, decide_eq_true_eq,
    htab]

/-- A character can stand in a header if and only if each of its bytes can. -/
theorem isValueChar_iff_bytes {c : Char} :
    isValueChar c = true ↔ ∀ b ∈ String.utf8EncodeChar c, IsLegalByte b := by
  rw [isValueChar_iff]
  by_cases hone : c.toNat < 0x80
  · rw [encode_one hone, List.forall_mem_singleton]
    unfold IsLegalByte
    rw [toNat_ofNat_byte (by omega)]
  · -- All bytes of a longer character are beyond the controls, as its number is.
    refine iff_of_true (.inl (by omega)) fun b hb => .inl ?_
    have hbyte := le_of_mem_encode (by omega) hb
    omega

/-- A text can be the value of a header if and only if it is legal. -/
theorem isValue_iff_isLegal {text : String} : isValue text = true ↔ IsLegal text := by
  rw [isValue_iff]
  unfold IsLegal utf8 utf8Of
  simp only [isValueChar_iff_bytes, List.mem_flatMap, forall_exists_index, and_imp]
  constructor
  · intro h b c hc hb
    exact h c hc b hb
  · intro h c hc b hb
    exact h b c hc hb

end Header

namespace Server

/-! ## Answers without the key -/

namespace Answer

/-- An answer without the header that carries the key. -/
def withoutKey (answer : Answer) : Answer :=
  { answer with headers := answer.headers.filter fun header => header.name ≠ keyHeader }

/-- No header of an answer is the one that carries the key. -/
def IsKeyless (answer : Answer) : Prop := ∀ header ∈ answer.headers, header.name ≠ keyHeader

variable {answer : Answer}

/-- An answer that holds JSON says so, and nothing else. -/
theorem isKeyless_json (status : Nat) (value : Json) : (json status value).IsKeyless := by
  intro header hheader
  rw [List.mem_singleton.1 hheader]
  exact show "content-type" ≠ keyHeader by decide

/-- The answer to an unknown place has no key. -/
theorem isKeyless_notFound : notFound.IsKeyless := nofun

/-- The answer to a wrong method has no key. -/
theorem isKeyless_notAllowed (allowed : String) : (notAllowed allowed).IsKeyless := by
  intro header hheader
  rw [List.mem_singleton.1 hheader]
  exact show "allow" ≠ keyHeader by decide

/-- An answer has no key without its body either. -/
theorem IsKeyless.withoutBody (h : answer.IsKeyless) : answer.withoutBody.IsKeyless := h

/-- An answer without the key has no value for it. -/
theorem IsKeyless.values_eq (h : answer.IsKeyless) : answer.values keyHeader = [] := by
  have hnone : (answer.headers.filter fun header => header.name = keyHeader) = [] :=
    List.filter_eq_nil_iff.2 fun header hheader => by
      rw [decide_eq_true_eq]
      exact h header hheader
  unfold values
  rw [hnone, List.map_nil]

/-- The header that is put on an answer stands there once. -/
theorem values_withHeader (answer : Answer) (header : Header) :
    (answer.withHeader header).values header.name = [header.value] := by
  have hothers : ((answer.headers.filter fun there => there.name ≠ header.name).filter fun there =>
      there.name = header.name) = [] := by
    refine List.filter_eq_nil_iff.2 fun there hthere => ?_
    have hne := (List.mem_filter.1 hthere).2
    rw [decide_eq_true_eq] at hne ⊢
    exact hne
  have hself : ([header].filter fun there => there.name = header.name) = [header] :=
    List.filter_eq_self.2 fun there hthere => by
      rw [List.mem_singleton.1 hthere]
      exact decide_eq_true rfl
  unfold values withHeader
  dsimp only
  rw [List.filter_append, hothers, hself]
  rfl

end Answer

open Answer

variable {registry : Registry} {world : World} {request : Request}

/-! ## The key on an answer -/

/-- A legal key stands once in an answer. -/
theorem values_withKey_of_isLegal {apiKey : String} (h : Header.IsLegal apiKey) (answer : Answer) :
    (withKey apiKey answer).values keyHeader = [apiKey] := by
  unfold withKey
  rw [if_pos (Header.isValue_iff_isLegal.2 h)]
  exact values_withHeader answer ⟨keyHeader, apiKey⟩

/-- A key that cannot stand in a header leaves an answer as it is. -/
theorem withKey_of_not_isLegal {apiKey : String} (h : ¬Header.IsLegal apiKey) (answer : Answer) :
    withKey apiKey answer = answer :=
  if_neg (mt Header.isValue_iff_isLegal.1 h)

/-- But for the key, an answer is what it was before the key was put on it. -/
theorem withoutKey_withKey (apiKey : String) (answer : Answer) :
    (withKey apiKey answer).withoutKey = answer.withoutKey := by
  unfold withKey
  split
  · unfold withoutKey withHeader
    dsimp only
    rw [List.filter_append, List.filter_filter]
    simp
  · rfl

/-! ## Answers of the routes -/

/-- An answer has no key if neither outcome has one. -/
theorem isKeyless_handledBy {α : Type} {answer : α → Answer} {failed : Error → Answer}
    (hanswer : ∀ value, (answer value).IsKeyless) (hfailed : ∀ error, (failed error).IsKeyless)
    (step : Step α) : (handledBy step answer failed).answer.IsKeyless := by
  unfold handledBy
  dsimp only
  split
  · exact hanswer _
  · exact hfailed _

/-- A failure has no key. -/
theorem isKeyless_failure (summary : String) (details : Json) :
    (failure summary details).IsKeyless := isKeyless_json _ _

/-- A metric that failed has no key. -/
theorem isKeyless_metricFailed (query : Query) (error : Error) :
    (metricFailed query error).IsKeyless := by
  unfold metricFailed
  split
  · exact isKeyless_json _ _
  · exact isKeyless_failure _ _
  · exact isKeyless_json _ _
  all_goals exact isKeyless_failure _ _

/-- An answer about health has no key. -/
theorem isKeyless_healthAnswer (health : Client.Health) : (healthAnswer health).IsKeyless := by
  unfold healthAnswer
  split
  · exact isKeyless_json _ _
  · exact isKeyless_json _ _

/-- An answer to a body has no key if none of the outcomes has one. -/
theorem isKeyless_handleBody {α : Type} {read : Json.Reader α} {handle : α → Handled}
    (h : ∀ value, (handle value).answer.IsKeyless) :
    (handleBody read registry request handle).answer.IsKeyless := by
  unfold handleBody
  split
  · exact h _
  · exact isKeyless_failure _ _

/-- An answer about values has no key. -/
theorem isKeyless_handleFieldValues (asked : QueryRequest) :
    (handleFieldValues registry world asked).answer.IsKeyless := by
  unfold handleFieldValues
  dsimp only
  split
  · exact isKeyless_failure _ _
  · exact isKeyless_handledBy (fun _ => isKeyless_json _ _) (fun _ => isKeyless_failure _ _) _

/-- A posted body is answered without the key on every route. -/
theorem isKeyless_handlePosted (route : Route) :
    (handlePosted registry world request route).answer.IsKeyless := by
  cases route with
  | root => exact isKeyless_json _ _
  | connection =>
    exact isKeyless_handleBody fun _ =>
      isKeyless_handledBy isKeyless_healthAnswer (fun _ => isKeyless_failure _ _) _
  | metric =>
    exact isKeyless_handleBody fun asked =>
      isKeyless_handledBy (fun _ => isKeyless_json _ _) (isKeyless_metricFailed asked.query) _
  | fieldNames =>
    exact isKeyless_handleBody fun _ =>
      isKeyless_handledBy (fun _ => isKeyless_json _ _) (fun _ => isKeyless_failure _ _) _
  | fieldValues => exact isKeyless_handleBody isKeyless_handleFieldValues

/-- Nobody who answers a request knows of the key: not the routes, and not the answers to paths that
lead nowhere and to methods that are not allowed. -/
theorem isKeyless_dispatch (registry : Registry) (world : World) (request : Request) :
    (dispatch registry world request).answer.IsKeyless := by
  unfold dispatch
  split
  · unfold handleRoute
    split
    · exact isKeyless_json _ _
    · exact (isKeyless_json _ _).withoutBody
    · exact isKeyless_notAllowed _
    · exact isKeyless_handlePosted _
    · exact isKeyless_notAllowed _
  · exact isKeyless_notFound

/-! ## Histories -/

/-- A request with the outside that the server meets while it handles it. -/
structure Visit where
  world : World
  request : Request

/-- What comes of requests one after the other. -/
def history (server : Server) : List Visit → List Handled
  | [] => []
  | visit :: later =>
    server.handle visit.world visit.request ::
      history (server.next visit.world visit.request) later

/-- What comes of requests one after the other, but for the key. -/
def dispatched (registry : Registry) : List Visit → List Handled
  | [] => []
  | visit :: later =>
    let handled := dispatch registry visit.world visit.request
    handled :: dispatched handled.registry later

/-- What comes of a request, with its answer changed. -/
def Handled.mapAnswer (change : Answer → Answer) (handled : Handled) : Handled :=
  { handled with answer := change handled.answer }

/-- The key of a server makes no difference to what it learns, so a history is one without a key,
with the key put on its answers. -/
theorem history_eq_map (server : Server) (visits : List Visit) :
    server.history visits =
      (dispatched server.registry visits).map (Handled.mapAnswer (withKey server.apiKey)) := by
  induction visits generalizing server with
  | nil => rfl
  | cons visit later ih =>
    rw [history, ih, dispatched, List.map_cons]
    rfl

/-- No answer that is dispatched has a key. -/
theorem isKeyless_of_mem_dispatched {visits : List Visit} {handled : Handled}
    (h : handled ∈ dispatched registry visits) : handled.answer.IsKeyless := by
  induction visits generalizing registry with
  | nil => cases h
  | cons visit later ih =>
    rcases List.mem_cons.1 h with rfl | h
    · exact isKeyless_dispatch _ _ _
    · exact ih h

/-- There is one answer for each visit. -/
theorem length_dispatched (registry : Registry) (visits : List Visit) :
    (dispatched registry visits).length = visits.length := by
  induction visits generalizing registry with
  | nil => rfl
  | cons visit later ih => rw [dispatched, List.length_cons, ih, List.length_cons]

/-- How the key of a server shows in what comes of requests. -/
structure Marked (server : Server) (visits : List Visit) : Prop where
  /-- Every request is answered. -/
  answered : (server.history visits).length = visits.length
  /-- A key that can stand in a header stands once on every answer, and has no other value there. -/
  once : Header.IsLegal server.apiKey → ∀ handled ∈ server.history visits,
    handled.answer.values keyHeader = [server.apiKey]
  /-- Any other key stands on no answer. -/
  never : ¬Header.IsLegal server.apiKey → ∀ handled ∈ server.history visits,
    handled.answer.values keyHeader = []
  /-- With any other key, everything but the key would have been the same. -/
  otherwise : ∀ apiKey,
    (({ server with apiKey } : Server).history visits).map (Handled.mapAnswer withoutKey) =
      (server.history visits).map (Handled.mapAnswer withoutKey)

/-- Whatever is asked of a server, in whatever order, and whatever the outside does meanwhile, each
answer is marked with the key, and depends on it in nothing else. -/
theorem marked (server : Server) (visits : List Visit) : Marked server visits where
  answered := by rw [history_eq_map, List.length_map, length_dispatched]
  once := by
    intro hlegal handled hhandled
    rw [history_eq_map] at hhandled
    obtain ⟨plain, -, rfl⟩ := List.mem_map.1 hhandled
    exact values_withKey_of_isLegal hlegal plain.answer
  never := by
    intro hlegal handled hhandled
    rw [history_eq_map] at hhandled
    obtain ⟨plain, hplain, rfl⟩ := List.mem_map.1 hhandled
    -- Such a key is not put on, and nobody else puts one on.
    change (withKey server.apiKey plain.answer).values keyHeader = []
    rw [withKey_of_not_isLegal hlegal]
    exact (isKeyless_of_mem_dispatched hplain).values_eq
  otherwise := by
    intro apiKey
    have hplain (key : String) :
        (Handled.mapAnswer withoutKey ∘ Handled.mapAnswer (withKey key)) =
          Handled.mapAnswer withoutKey := by
      funext handled
      exact congrArg (fun answer => { handled with answer }) (withoutKey_withKey key handled.answer)
    rw [history_eq_map, history_eq_map, List.map_map, List.map_map, hplain, hplain]

/-- Visits to the root, to a path that leads nowhere, with a method that is not allowed, and with a
body that is not accepted. -/
def strayVisits : List Visit :=
  [("GET", "/"), ("GET", "/nowhere"), ("DELETE", "/api/metric"), ("POST", "/api/metric")].map
    fun (method, target) =>
      { world := Gateway.listingWorld,
        request := { method, target, contentType := none, body := [] } }

/-- The key stands on all four answers, or on none of them if it holds a line feed. -/
theorem marked_strayVisits :
    (history { apiKey := "key" } strayVisits).map (·.answer.status) = [200, 404, 405, 500] ∧
      (∀ handled ∈ history { apiKey := "key" } strayVisits,
        handled.answer.values keyHeader = ["key"]) ∧
      ∀ handled ∈ history { apiKey := "a\nb" } strayVisits,
        handled.answer.values keyHeader = [] := by
  have hlegal : Header.IsLegal "key" := Header.isValue_iff_isLegal.1 (by decide)
  have hillegal : ¬Header.IsLegal "a\nb" := mt Header.isValue_iff_isLegal.2 (by decide)
  exact ⟨by decide +kernel, (marked _ _).once hlegal, (marked _ _).never hillegal⟩

end Server

end MetricGateway
