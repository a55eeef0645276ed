import MetricGateway.Proofs.Client.Sending
import MetricGateway.Proofs.Gateway.Limit
import MetricGateway.Proofs.Payload.Range

/-!
# Metrics that are not found

Errors about a response come from its payload alone: neither building a client nor asking a place of
the backend brings one (`not_isResponse_of_obtain`, `not_isResponse_of_get`). So whenever a metric
is reported as not found, the text that goes with the report is the text into which the query was
compiled (`compile_of_notFound`).
-/

namespace MetricGateway

open Success

/-- An error is about a response of the backend. -/
def Error.IsResponse (error : Error) : Prop := ∃ cause, error = .response cause

/-- An error says that no metric is found: the query selects none, or the backend has none for it.
-/
def Error.IsNotFound (error : Error) : Prop :=
  (∃ message, error = .query (.requiredSelector message)) ∨
    ∃ text, error = .response (.metricNotFound text)

variable {world : World} {error : Error}

/-! ## Errors before a response -/

/-- Credentials do not fail with a response. -/
theorem not_isResponse_of_resolveCredentials {aws : AwsSettings}
    (h : (resolveCredentials world aws).result = .error error) : ¬error.IsResponse := by
  have hgranted {role : String} {reply : Option TokenReply}
      (h : granted role reply = .error error) : ¬error.IsResponse := by
    unfold granted at h
    split at h
    · unfold TokenReply.credentials at h
      split at h
      · split at h <;> cases h <;> exact nofun
      · cases h
        exact nofun
    · cases h
      exact nofun
  have hassume {repetitions : Nat} {caller : Option Credentials}
      (h : (assumeRole world aws repetitions caller).result = .error error) :
      ¬error.IsResponse := by
    unfold assumeRole at h
    split at h
    · cases h
      exact nofun
    · cases h
      exact nofun
    · exact hgranted h
  unfold resolveCredentials at h
  split at h
  · cases h
  · exact hassume h
  · exact hassume h

/-- A client that cannot be built fails with no response. -/
theorem not_isResponse_of_build {connection : Connection}
    (h : (Client.build world connection).result = .error error) : ¬error.IsResponse := by
  unfold Client.build at h
  rw [Exchange.result_bind, bind_eq_error_iff] at h
  rcases h with h | ⟨signer, -, h⟩
  · unfold Client.buildSigner at h
    split at h
    · cases h
    · rw [Exchange.result_bind, bind_eq_error_iff] at h
      rcases h with h | ⟨credentials, -, h⟩
      · exact not_isResponse_of_resolveCredentials h
      · cases h
  · rw [Exchange.result_bind, bind_eq_error_iff] at h
    rcases h with h | ⟨sender, -, h⟩
    · unfold Client.buildSender at h
      split at h
      · cases h
        exact nofun
      · cases h
    · cases h

/-- Neither is one there while redirects are followed. -/
theorem not_isResponse_of_pursue {answer : Nat → BackendRequest → Hop} {left followed : Nat}
    {url : Url} {headers : List Header}
    (h : (Backend.pursue answer left followed url headers).result = .error error) :
    ¬error.IsResponse := by
  obtain ⟨last, hop, -, -, hends⟩ :=
    Backend.exists_ends_pursue answer left followed url headers
  generalize (Backend.pursue answer left followed url headers).result = result at h hends
  cases hends with
  | settled none_eq =>
    unfold Backend.receive at h
    split at h
    · cases h
      exact nofun
    · cases h
    · cases h
  | stopped redirects length_eq =>
    cases h
    exact nofun

/-- No response is there yet when a client is obtained. -/
theorem not_isResponse_of_obtain {registry : Registry} {connection : Connection}
    (h : (registry.obtain world connection).exchange.result = .error error) :
    ¬error.IsResponse := by
  cases hfind : registry.find? connection.baseUrl with
  | some client =>
    rw [Registry.obtain_of_find?_eq_some hfind] at h
    cases h
  | none =>
    rw [Registry.exchange_obtain_of_find?_eq_none hfind] at h
    exact not_isResponse_of_build h

namespace Client

variable {client : Client} {place : String} {pairs : List (String × String)}

/-- Without a response, an error is not about one. -/
theorem not_isResponse_of_get (h : (client.get world place pairs).result = .error error) :
    ¬error.IsResponse := by
  unfold get at h
  simp only [Exchange.result_bind, Exchange.result_lift, bind_eq_error_iff] at h
  rcases h with hurl | ⟨url, -, hheaders | ⟨headers, -, hsend⟩⟩
  · unfold Client.url at hurl
    split at hurl
    · cases hurl
    · cases hurl
      exact nofun
  · unfold signatureHeaders at hheaders
    split at hheaders
    · unfold Signer.sign at hheaders
      split at hheaders
      · cases hheaders
      · cases hheaders
        exact nofun
    · cases hheaders
  · unfold Backend.send at hsend
    dsimp only at hsend
    split at hsend
    · cases hsend
      exact nofun
    split at hsend
    · cases hsend
      exact nofun
    split at hsend
    · cases hsend
      exact nofun
    · exact not_isResponse_of_pursue hsend

/-! ## Errors about a payload -/

/-- Whoever asks for a payload looks at no series, so a metric is not missing there. -/
theorem getPayload_ne_notFound (text : String) :
    (client.getPayload world place pairs).result ≠ .error (.response (.metricNotFound text)) := by
  intro h
  unfold getPayload at h
  simp only [Exchange.result_bind, Exchange.result_lift, bind_eq_error_iff] at h
  rcases h with hget | ⟨response, -, hbody | ⟨body, -, hpayload⟩⟩
  · exact not_isResponse_of_get hget ⟨_, rfl⟩
  · unfold successfulBody at hbody
    rw [bind_eq_error_iff, mapError_eq_error_iff] at hbody
    rcases hbody with ⟨cause, -, hcause⟩ | ⟨body, -, hbody⟩
    · cases hcause
    · split at hbody
      · cases hbody
      · split at hbody
        · next error herror =>
          cases hbody
          unfold reportedError? at herror
          split at herror
          · split at herror <;> cases herror
          · cases herror
        · cases hbody
  · unfold readPayload at hpayload
    obtain ⟨fault, -, hfault⟩ := mapError_eq_error_iff.1 hpayload
    cases hfault

/-- A metric that is not found is the one that the text of the query names. -/
theorem compile_of_samples_notFound {query : RangeQuery} {text : String}
    (h : (client.samples world query).result = .error (.response (.metricNotFound text))) :
    PromQL.compile query.conditions query.method query.window = .ok text := by
  unfold samples at h
  simp only [Exchange.result_bind, Exchange.result_lift, bind_eq_error_iff,
    mapError_eq_error_iff] at h
  rcases h with ⟨cause, -, hcause⟩ | ⟨compiled, hcompiled, hpayload | ⟨payload, -, hsamples⟩⟩
  · cases hcause
  · exact absurd hpayload (getPayload_ne_notFound text)
  · rcases hsamples with ⟨cause, hrange, hcause⟩ | ⟨all, -, htake⟩
    · cases hcause
      -- Of all verdicts on a payload only one is this error, and it names the compiled text.
      have hverdict := Payload.verdict compiled payload
      rw [hrange] at hverdict
      cases hverdict with
      | notFound => exact mapError_eq_ok_iff.1 hcompiled
    · cases htake

end Client

namespace Gateway

/-- Points that cannot be made are due to the values of samples. -/
theorem points_ne_notFound (query : Query) (policy : NanPolicy) (samples : List Sample)
    (method : Option Method) (text : String) :
    points query policy samples method ≠ .error (.response (.metricNotFound text)) := by
  intro h
  obtain ⟨α, build, wrap, heq, -, -⟩ := exists_points_eq query policy method
  rw [heq] at h
  obtain ⟨cause, hmap, hcause⟩ := mapError_eq_error_iff.1 h
  obtain rfl : cause = .metricNotFound text := Error.response.inj hcause
  cases hcollect : Points.collect policy (isInRange query method) build samples with
  | ok all =>
    rw [hcollect] at hmap
    cases hmap
  | error error =>
    rw [hcollect] at hmap
    -- The error would be that of a sample, which is about its value.
    obtain rfl : error = .metricNotFound text := Except.error.inj hmap
    obtain ⟨sample, -, -, hreading⟩ := Points.exists_of_collect_error hcollect
    obtain ⟨details, hdetails⟩ := sample.exists_of_reading_error hreading
    cases hdetails

/-- A metric is reported as not found with the text into which its query was compiled. -/
theorem compile_of_notFound {registry : Registry} {connection : Connection} {query : Query}
    {text : String} (h : (fetchMetric registry world connection query).exchange.result =
      .error (.response (.metricNotFound text))) :
    ∃ method, Gateway.method query = .ok method ∧
      PromQL.compile query.conditions method (query.windowMillis / 1000) = .ok text := by
  change ((registry.obtain world connection).exchange >>= telemetry world query).result = _ at h
  unfold telemetry at h
  simp only [Exchange.result_bind, Exchange.result_lift, bind_eq_error_iff] at h
  rcases h with hobtain | ⟨client, -, hmethod | ⟨method, hmethod, hsamples | ⟨samples, -, hpoints⟩⟩⟩
  · exact absurd ⟨_, rfl⟩ (not_isResponse_of_obtain hobtain)
  · obtain ⟨cause, -, hcause⟩ := mapError_eq_error_iff.1 hmethod
    cases hcause
  · exact ⟨method, hmethod, Client.compile_of_samples_notFound hsamples⟩
  · exact absurd hpoints (points_ne_notFound query client.nanPolicy samples method text)

end Gateway

end MetricGateway
