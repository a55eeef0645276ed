import MetricGateway.Proofs.Exchange
import MetricGateway.Proofs.Registry.Entries
import MetricGateway.Proofs.Success

/-!
# What comes of building a client

Building a client asks the token service, if anybody (`Client.exists_token_of_mem_build`), and fixes
how the client signs: it does if its connection has settings for that, with the credentials they
resolve to and for their region (`Client.signsBy_of_build`).
-/

namespace MetricGateway

open Success

/-- Who is asked for credentials is the token service. -/
theorem exists_token_of_mem_resolveCredentials {world : World} {aws : AwsSettings}
    {request : Request} (h : request ∈ (resolveCredentials world aws).requests) :
    ∃ asked, request = .token asked := by
  -- The role is asked for again and again, but always at the same service.
  have hask {repetitions : Nat} {asked : TokenRequest}
      (h : request ∈ (askForRole world repetitions asked).requests) :
      ∃ asked, request = .token asked := ⟨asked, List.eq_of_mem_replicate h⟩
  have hassume {repetitions : Nat} {caller : Option Credentials}
      (h : request ∈ (assumeRole world aws repetitions caller).requests) :
      ∃ asked, request = .token asked := by
    unfold assumeRole at h
    split at h
    · cases h
    · cases h
    · exact hask h
  unfold resolveCredentials at h
  split at h
  · cases h
  · exact hassume h
  · exact hassume h

namespace Client

variable {world : World} {connection : Connection}

/-- Building a client asks what resolving its credentials asks. -/
theorem requests_build (world : World) (connection : Connection) :
    (build world connection).requests = (buildSigner world connection.aws).requests :=
  Exchange.requests_bind_of_silent fun _ => Exchange.requests_bind_of_silent fun _ => rfl

/-- Building a client asks the token service, if anybody. -/
theorem exists_token_of_mem_build {request : Request}
    (h : request ∈ (build world connection).requests) : ∃ asked, request = .token asked := by
  rw [requests_build] at h
  cases haws : connection.aws with
  | none =>
    rw [haws] at h
    cases h
  | some aws =>
    rw [haws] at h
    have hsilent : (buildSigner world (some aws)).requests =
        (resolveCredentials world aws).requests :=
      Exchange.requests_bind_of_silent fun _ => rfl
    exact exists_token_of_mem_resolveCredentials (hsilent ▸ h)

/-- No redirects are followed while a client is built: no backend is asked. -/
theorem followed_build (world : World) (connection : Connection) :
    (build world connection).followed = [] := by
  -- No part of building a client is led to another URL.
  have hpartwise : Exchange.IsPartwise fun _ followed => followed = [] :=
    ⟨rfl, fun h h' => List.append_eq_nil_iff.2 ⟨h, h'⟩⟩
  have hassume (aws : AwsSettings) (repetitions : Nat) (caller : Option Credentials) :
      (assumeRole world aws repetitions caller).followed = [] := by
    unfold assumeRole
    split
    · rfl
    · rfl
    · rfl
  have hresolve (aws : AwsSettings) : (resolveCredentials world aws).followed = [] := by
    unfold resolveCredentials
    split
    · rfl
    · exact hassume _ _ _
    · exact hassume _ _ _
  have hsigner (settings : Option AwsSettings) : (buildSigner world settings).followed = [] := by
    cases settings with
    | none => rfl
    | some aws => exact hpartwise.bind (hresolve aws) fun _ => rfl
  exact hpartwise.bind (hsigner _) fun _ => hpartwise.bind (hpartwise.ofResult _) fun _ => rfl

/-- How a client signs, given the settings of its connection and the outside when it was built: not
at all without settings, and otherwise with the credentials that these resolve to. -/
def SignsBy (world : World) (settings : Option AwsSettings) (client : Client) : Prop :=
  settings = none ∧ client.signer = none ∨
    ∃ aws credentials, settings = some aws ∧
      (resolveCredentials world aws).result = .ok credentials ∧
      client.signer = some { credentials, region := aws.regionName }

/-- How a client signs is fixed when it is built. -/
theorem signsBy_of_build {client : Client} (h : (build world connection).result = .ok client) :
    SignsBy world connection.aws client := by
  obtain ⟨signer, hsigner, rfl⟩ := exists_signer_of_build h
  cases haws : connection.aws with
  | none =>
    rw [haws] at hsigner
    cases hsigner
    exact .inl ⟨rfl, rfl⟩
  | some aws =>
    rw [haws] at hsigner
    change ((resolveCredentials world aws) >>= _).result = _ at hsigner
    rw [Exchange.result_bind] at hsigner
    obtain ⟨credentials, hcredentials, hsome⟩ := bind_eq_ok_iff.1 hsigner
    cases hsome
    exact .inr ⟨aws, credentials, rfl, hcredentials, rfl⟩

end Client

/-- Obtaining a client asks the token service, if anybody. -/
theorem Registry.exists_token_of_mem_obtain {registry : Registry} {world : World}
    {connection : Connection} {request : Request}
    (h : request ∈ (registry.obtain world connection).exchange.requests) :
    ∃ asked, request = .token asked := by
  cases hfind : registry.find? connection.baseUrl with
  | some client =>
    rw [obtain_of_find?_eq_some hfind] at h
    cases h
  | none =>
    rw [exchange_obtain_of_find?_eq_none hfind] at h
    exact Client.exists_token_of_mem_build h

/-- No redirects are followed while a client is obtained. -/
theorem Registry.followed_obtain (registry : Registry) (world : World) (connection : Connection) :
    (registry.obtain world connection).exchange.followed = [] := by
  cases hfind : registry.find? connection.baseUrl with
  | some client =>
    rw [obtain_of_find?_eq_some hfind]
    rfl
  | none =>
    rw [exchange_obtain_of_find?_eq_none hfind]
    exact Client.followed_build world connection

/-- What is asked with the client for a connection is asked while the client is obtained, or by what
is done with it. -/
theorem Registry.mem_requests_withClient {α : Type} {registry : Registry} {world : World}
    {connection : Connection} {act : Client → Exchange α} {request : Request}
    (h : request ∈ (registry.withClient world connection act).exchange.requests) :
    (∃ asked, request = .token asked) ∨
      ∃ client, (registry.obtain world connection).exchange.result = .ok client ∧
        request ∈ (act client).requests := by
  change request ∈ ((registry.obtain world connection).exchange >>= act).requests at h
  cases hclient : (registry.obtain world connection).exchange.result with
  | error error =>
    rw [Exchange.requests_bind_of_error hclient] at h
    exact .inl (exists_token_of_mem_obtain h)
  | ok client =>
    rw [Exchange.requests_bind_of_ok hclient] at h
    rcases List.mem_append.1 h with h | h
    · exact .inl (exists_token_of_mem_obtain h)
    · exact .inr ⟨client, rfl, h⟩

end MetricGateway
