import MetricGateway.Gateway

/-!
# Where redirects lead

An answer that is a redirect leads to a request for another URL, and the answer to this one may lead
on. `Trail` is how one comes from a request to a later answer. `exists_ends_pursue` says that
following redirects follows such a trail, to an answer that is no redirect or that is one too many.
On the way nothing is added to what the first request says of who asks (`Trail.headers_eq`).
-/

namespace MetricGateway.Backend

variable {answer : Nat → BackendRequest → Hop} {left followed : Nat} {url last : Url}
  {headers : List Header} {requests : List BackendRequest} {hop : Hop}

/-- A request, after some redirects, leads from answer to answer to one for another URL. -/
inductive Trail (answer : Nat → BackendRequest → Hop) :
    Nat → Url → List Header → List BackendRequest → Url → Hop → Prop where
  /-- Its own answer. -/
  | here {followed : Nat} {url : Url} {headers : List Header} :
    Trail answer followed url headers [] url (answer followed (wire url headers))
  /-- What the redirect leads to that its answer is. -/
  | step {followed : Nat} {url next last : Url} {headers : List Header}
    {requests : List BackendRequest} {hop : Hop}
    (next_eq : next? (answer followed (wire url headers)) = some next)
    (rest : Trail answer (followed + 1) next (headersFor url next headers) requests last hop) :
    Trail answer followed url headers (wire next (headersFor url next headers) :: requests) last hop

/-- If no answer names a place to go to, there is nothing to follow. -/
theorem Trail.eq_nil (h : Trail answer followed url headers requests last hop)
    (hnone : ∀ followed request, (answer followed request).location = none) : requests = [] := by
  cases h with
  | here => rfl
  | step next_eq rest =>
    unfold next? at next_eq
    rw [hnone, ite_self] at next_eq
    cases next_eq

/-- How a request comes to an end, at the answer to a URL: it is no redirect, or one too many. -/
inductive Ends (left : Nat) (requests : List BackendRequest) (last : Url) (hop : Hop) :
    Except Error Response → Prop where
  | settled (none_eq : next? hop = none) :
    Ends left requests last hop (receive last.render hop.delivery)
  | stopped (redirects : (next? hop).isSome) (length_eq : requests.length = left) :
    Ends left requests last hop (.error (.transport (.redirect last.render tooManyRedirects)))

/-- One redirect more, of which one more could be followed, ends in the same way. -/
theorem Ends.cons {result : Except Error Response} (h : Ends left requests last hop result)
    (request : BackendRequest) : Ends (left + 1) (request :: requests) last hop result := by
  cases h with
  | settled none_eq => exact .settled none_eq
  | stopped redirects length_eq => exact .stopped redirects (congrArg (· + 1) length_eq)

/-- Following redirects follows a trail to its end, and no further than the limit. -/
theorem exists_ends_pursue (answer : Nat → BackendRequest → Hop) (left followed : Nat) (url : Url)
    (headers : List Header) :
    ∃ last hop, Trail answer followed url headers
        (pursue answer left followed url headers).followed last hop ∧
      (pursue answer left followed url headers).followed.length ≤ left ∧
      Ends left (pursue answer left followed url headers).followed last hop
        (pursue answer left followed url headers).result := by
  -- The induction is on how many redirects may still be followed.
  induction left generalizing followed url headers with
  | zero =>
    unfold pursue
    dsimp only
    split
    · next hnext => exact ⟨_, _, .here, Nat.le_refl _, .settled hnext⟩
    · next hnext _ => exact ⟨_, _, .here, Nat.le_refl _, .stopped (Option.isSome_of_mem hnext) rfl⟩
    · next hleft => cases hleft
  | succ left ih =>
    unfold pursue
    dsimp only
    split
    · next hnext => exact ⟨_, _, .here, Nat.zero_le _, .settled hnext⟩
    · next hleft => cases hleft
    · next next rest hnext hleft =>
      cases hleft
      obtain ⟨last, hop, htrail, hlength, hends⟩ :=
        ih (followed + 1) next (headersFor url next headers)
      exact ⟨last, hop, .step hnext htrail, Nat.succ_le_succ hlength, hends.cons _⟩

/-- All headers go along with a redirect, or all but an authorization. -/
theorem headersFor_eq (url next : Url) (headers : List Header) :
    headersFor url next headers = headers ∨
      headersFor url next headers =
        headers.filter fun header => header.name ≠ "authorization" := by
  unfold headersFor
  split
  · exact .inl rfl
  · exact .inr rfl

/-- The headers along a trail are those of its request, or these without an authorization. -/
theorem Trail.headers_eq (h : Trail answer followed url headers requests last hop) :
    ∀ request ∈ requests, request.headers = headers ∨
      request.headers = headers.filter fun header => header.name ≠ "authorization" := by
  induction h with
  | here => exact fun _ hmem => absurd hmem List.not_mem_nil
  | step next_eq rest ih =>
    intro request hmem
    rcases List.mem_cons.1 hmem with rfl | hmem
    · exact headersFor_eq _ _ _
    · rcases headersFor_eq _ _ _ with h | h
      · rw [h] at ih
        exact ih request hmem
      · -- What was left out once is not there to be left out again.
        rw [h, List.filter_filter] at ih
        simp only [Bool.and_self] at ih
        exact .inr ((ih request hmem).elim id id)

end MetricGateway.Backend
