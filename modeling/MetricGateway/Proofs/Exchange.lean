import MetricGateway.Proofs.Client.Redirect

/-!
# What is asked on the way

What holds of the requests of each part of an exchange holds of the whole if it goes through
exchanges step by step (`Exchange.IsPartwise`). All that a client does for the gateway comes down to
sending requests to its backend, so a relation that holds whenever one is sent holds of every
operation of a client (`Gateway.meets_telemetry` and the lemmas before it). Two relations are of
this kind. A client asks its backend and nobody else: credentials are resolved while a client is
built, and never again (`Exchange.AsksBackendOnly`). And whoever follows a redirect has been sent
there, and says no more of who asks than the request from which it came (`Exchange.FollowsOwn`).
-/

namespace MetricGateway

/-- An outside that stands still: every request to a backend brings the same, the token service
never answers, and the default chain finds nobody. -/
def World.still (delivery : Delivery) (seconds : Nat) : World where
  backend _ _ _ := { delivery }
  tokenService _ _ := none
  chain := none
  seconds

variable {α β : Type} {P : List Request → List BackendRequest → Prop}

namespace Exchange

/-- Every request of an exchange goes to a backend, none to the token service. -/
def AsksBackendOnly (exchange : Exchange α) : Prop :=
  ∀ request ∈ exchange.requests, ∃ asked, request = .backend asked

/-- The exchange with another form of its value. -/
def map (f : α → β) (exchange : Exchange α) : Exchange β where
  result := exchange.result.map f
  requests := exchange.requests
  followed := exchange.followed

/-- Another form of the value does not change how an exchange goes on. -/
theorem map_andThen (first : Exchange α) {γ : Type} (next : α → Exchange β) (f : β → γ) :
    (first.andThen next).map f = first.andThen fun value => (next value).map f := by
  unfold andThen
  cases first.result with
  | error error => rfl
  | ok value => rfl

/-- An exchange that only changes the form of its value sends nothing more. -/
theorem bind_pure_eq_map (first : Exchange α) (f : α → β) :
    (first >>= fun value => pure (f value)) = first.map f := by
  obtain ⟨result, requests, followed⟩ := first
  cases result with
  | error error => rfl
  | ok value =>
    change Exchange.mk _ (requests ++ []) (followed ++ []) = _
    rw [List.append_nil, List.append_nil]
    rfl

/-- A relation holds of the requests of an exchange and those with which redirects were followed. -/
def Meets (P : List Request → List BackendRequest → Prop) (exchange : Exchange α) : Prop :=
  P exchange.requests exchange.followed

/-- Another form of the value changes nothing of what is asked. -/
theorem Meets.map {exchange : Exchange α} (h : exchange.Meets P) (f : α → β) :
    (exchange.map f).Meets P := h

/-- A relation that holds of a whole if it holds of its parts. -/
structure IsPartwise (P : List Request → List BackendRequest → Prop) : Prop where
  nil : P [] []
  append : ∀ {requests requests' : List Request} {followed followed' : List BackendRequest},
    P requests followed → P requests' followed' → P (requests ++ requests') (followed ++ followed')

/-- A result that is there has asked nobody. -/
theorem IsPartwise.ofResult (h : IsPartwise P) (result : Except Error α) :
    (ofResult result).Meets P := h.nil

/-- An exchange that goes on asks what its parts ask. -/
theorem IsPartwise.bind (h : IsPartwise P) {first : Exchange α} {next : α → Exchange β}
    (hfirst : first.Meets P) (hnext : ∀ value, (next value).Meets P) :
    (first >>= next).Meets P := by
  change (first.andThen next).Meets P
  unfold andThen
  split
  · exact hfirst
  · next value _ => exact h.append hfirst (hnext value)

end Exchange

/-! ## What a client does -/

/-- A relation that goes through exchanges and holds whenever a request to a backend is sent. -/
structure Backend.IsKept (P : List Request → List BackendRequest → Prop) : Prop where
  isPartwise : Exchange.IsPartwise P
  send : ∀ (world : World) (timeoutSeconds : Nat) (url : Url) (headers : List Header),
    (send world timeoutSeconds url headers).Meets P

namespace Client

/-- A relation that is kept holds of asking a place of the backend. Every operation of a client
comes down to this. -/
theorem meets_get (h : Backend.IsKept P) (client : Client) (world : World) (place : String)
    (pairs : List (String × String)) : (client.get world place pairs).Meets P := by
  unfold get
  refine h.isPartwise.bind (h.isPartwise.ofResult _) fun url => ?_
  refine h.isPartwise.bind (h.isPartwise.ofResult _) fun headers => ?_
  exact h.send _ _ _ _

/-- It holds of a probe. -/
theorem meets_probe (h : Backend.IsKept P) (client : Client) (world : World) :
    (client.probe world).Meets P :=
  client.meets_get h world _ _

/-- It holds of asking for a payload. -/
theorem meets_getPayload (h : Backend.IsKept P) (client : Client) (world : World) (place : String)
    (pairs : List (String × String)) : (client.getPayload world place pairs).Meets P := by
  unfold getPayload
  refine h.isPartwise.bind (client.meets_get h _ _ _) fun response => ?_
  refine h.isPartwise.bind (h.isPartwise.ofResult _) fun body => ?_
  exact h.isPartwise.ofResult _

/-- It holds of asking for a listing. -/
theorem meets_getListing (h : Backend.IsKept P) (client : Client) (world : World) (place : String) :
    (client.getListing world place).Meets P := by
  unfold getListing
  refine h.isPartwise.bind (client.meets_getPayload h _ _ _) fun payload => ?_
  exact h.isPartwise.ofResult _

/-- It holds of listing the names of labels. -/
theorem meets_labels (h : Backend.IsKept P) (client : Client) (world : World) (limit : Nat) :
    (client.labels world limit).Meets P := by
  unfold labels
  exact h.isPartwise.bind (client.meets_getListing h _ _) fun names => h.isPartwise.ofResult _

/-- It holds of listing the values of a label. -/
theorem meets_labelValues (h : Backend.IsKept P) (client : Client) (world : World) (label : String)
    (start : Option String) (offset limit : Nat) :
    (client.labelValues world label start offset limit).Meets P := by
  unfold labelValues
  exact h.isPartwise.bind (client.meets_getListing h _ _) fun values => h.isPartwise.ofResult _

/-- It holds of asking for samples. -/
theorem meets_samples (h : Backend.IsKept P) (client : Client) (world : World)
    (query : RangeQuery) :
    (client.samples world query).Meets P := by
  unfold samples
  refine h.isPartwise.bind (h.isPartwise.ofResult _) fun text => ?_
  refine h.isPartwise.bind (client.meets_getPayload h _ _ _) fun payload => ?_
  exact h.isPartwise.bind (h.isPartwise.ofResult _) fun all => h.isPartwise.ofResult _

end Client

/-- It holds of fetching the points of a metric. -/
theorem Gateway.meets_telemetry (h : Backend.IsKept P) (world : World) (query : Query)
    (client : Client) : (telemetry world query client).Meets P := by
  unfold telemetry
  refine h.isPartwise.bind (h.isPartwise.ofResult _) fun method => ?_
  refine h.isPartwise.bind (client.meets_samples h _ _) fun samples => ?_
  exact h.isPartwise.ofResult _

/-! ## Who is asked -/

/-- A request goes on where another one was sent: it has the headers of that one, or these without
an authorization. -/
def BackendRequest.Continues (request sent : BackendRequest) : Prop :=
  request.headers = sent.headers ∨
    request.headers = sent.headers.filter fun header => header.name ≠ "authorization"

/-- Whoever follows a redirect goes on where a request of the exchange was sent. -/
def Exchange.FollowsOwn (exchange : Exchange α) : Prop :=
  ∀ request ∈ exchange.followed, ∃ sent, .backend sent ∈ exchange.requests ∧ request.Continues sent

namespace Backend

/-- Sending requests to a backend asks nobody else. -/
theorem isKept_asksBackendOnly :
    IsKept fun requests _ => ∀ request ∈ requests, ∃ asked, request = .backend asked where
  isPartwise := {
    nil := fun _ h => absurd h List.not_mem_nil
    append := fun h h' request hmem => (List.mem_append.1 hmem).elim (h request) (h' request) }
  send world timeoutSeconds url headers := by
    unfold send
    dsimp only
    split
    · exact fun _ h => absurd h List.not_mem_nil
    split
    · exact fun _ h => absurd h List.not_mem_nil
    split
    · exact fun _ h => absurd h List.not_mem_nil
    · exact fun _ h => ⟨_, List.mem_singleton.1 h⟩

/-- What follows redirects in two parts goes on where the requests of both were sent. -/
theorem isPartwise_followsOwn : Exchange.IsPartwise fun requests followed =>
    ∀ request ∈ followed, ∃ sent, .backend sent ∈ requests ∧ request.Continues sent where
  nil _ h := absurd h List.not_mem_nil
  append h h' request hmem := by
    rcases List.mem_append.1 hmem with hmem | hmem
    · obtain ⟨sent, hsent, hcontinues⟩ := h request hmem
      exact ⟨sent, List.mem_append_left _ hsent, hcontinues⟩
    · obtain ⟨sent, hsent, hcontinues⟩ := h' request hmem
      exact ⟨sent, List.mem_append_right _ hsent, hcontinues⟩

/-- Redirects are followed from the request that is sent. -/
theorem isKept_followsOwn : IsKept fun requests followed =>
    ∀ request ∈ followed, ∃ sent, .backend sent ∈ requests ∧ request.Continues sent where
  isPartwise := isPartwise_followsOwn
  send world timeoutSeconds url headers := by
    unfold send
    dsimp only
    split
    · exact fun _ h => absurd h List.not_mem_nil
    split
    · exact fun _ h => absurd h List.not_mem_nil
    split
    · exact fun _ h => absurd h List.not_mem_nil
    · intro request hmem
      obtain ⟨last, hop, htrail, -⟩ :=
        exists_ends_pursue (world.backend timeoutSeconds) maxFollowed 0
        (plainUrl url) (userHeaders url ++ headers)
      exact ⟨_, List.mem_singleton_self _, htrail.headers_eq request hmem⟩

end Backend

end MetricGateway
