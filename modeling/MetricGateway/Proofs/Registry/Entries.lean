import MetricGateway.Proofs.Success
import MetricGateway.Registry

/-!
# Entries of the registry

Offering a client for a base URL adds an entry at the end or leaves the registry as it is. So an
entry that is there stays there (`entries_prefix_insertIfAbsent`), a base URL has one entry at most
(`keys_nodup_insertIfAbsent`), and the client that comes back from an offer is the one that is
registered from then on (`find?_insertIfAbsent_self`), never an offered client that came too late.
`obtain` changes the entry of its own base URL only, and only if there is none
(`find?_registry_obtain`).
-/

namespace MetricGateway

open Success

/-- A client is built once its signer and its HTTP client are, and is what the connection says. -/
theorem Client.exists_signer_of_build {world : World} {connection : Connection} {client : Client}
    (h : (Client.build world connection).result = .ok client) :
    ∃ signer, (buildSigner world connection.aws).result = .ok signer ∧ client = {
      baseUrl := connection.baseUrl
      timeoutSeconds := connection.timeoutSeconds
      nanPolicy := connection.nanPolicy
      signer } := by
  unfold build at h
  rw [Exchange.result_bind] at h
  obtain ⟨signer, hsigner, h⟩ := bind_eq_ok_iff.1 h
  rw [Exchange.result_bind] at h
  obtain ⟨-, -, h⟩ := bind_eq_ok_iff.1 h
  exact ⟨signer, hsigner, (Except.ok.inj h).symm⟩

/-- The client that is built for a connection calls the connection's base URL. -/
theorem Client.baseUrl_of_build {world : World} {connection : Connection} {client : Client}
    (h : (Client.build world connection).result = .ok client) :
    client.baseUrl = connection.baseUrl := by
  obtain ⟨signer, -, rfl⟩ := exists_signer_of_build h
  rfl

namespace Registry

variable {γ : Type}

/-- The base URLs that have an entry, in the order of the entries. -/
def keys (registry : Registry γ) : List String := registry.entries.map Prod.fst

/-- Nothing is registered in the beginning. -/
@[simp]
theorem find?_empty (url : String) : (empty : Registry γ).find? url = none := rfl

/-- A base URL without an entry is not among the keys. -/
theorem find?_eq_none_iff {registry : Registry γ} {url : String} :
    registry.find? url = none ↔ url ∉ registry.keys := by
  unfold find? keys
  rw [List.lookup_eq_none_iff]
  simp only [bne_iff_ne, List.mem_map, not_exists, not_and]
  constructor
  · intro h entry hentry heq
    exact h entry hentry heq.symm
  · intro h entry hentry heq
    exact h entry hentry heq.symm

/-! ## Offering a client -/

/-- A client that is offered for a base URL with an entry is given up. -/
theorem insertIfAbsent_of_find?_eq_some {registry : Registry γ} {url : String} {client : γ}
    (h : registry.find? url = some client) (offered : γ) :
    registry.insertIfAbsent url offered = registry := by
  unfold insertIfAbsent
  rw [h]

/-- A client that is offered for a base URL without an entry becomes the last entry. -/
theorem entries_insertIfAbsent_of_find?_eq_none {registry : Registry γ} {url : String}
    (h : registry.find? url = none) (offered : γ) :
    (registry.insertIfAbsent url offered).entries = registry.entries ++ [(url, offered)] := by
  unfold insertIfAbsent
  rw [h]

/-- An offer keeps every entry at its place. -/
theorem entries_prefix_insertIfAbsent (registry : Registry γ) (url : String) (offered : γ) :
    registry.entries <+: (registry.insertIfAbsent url offered).entries := by
  cases h : registry.find? url with
  | some client => exact ⟨[], by rw [insertIfAbsent_of_find?_eq_some h, List.append_nil]⟩
  | none => exact ⟨[(url, offered)], (entries_insertIfAbsent_of_find?_eq_none h offered).symm⟩

/-- The entries after an offer are those before it, and the offered one if its base URL had
none. -/
theorem mem_entries_insertIfAbsent {registry : Registry γ} {url : String} {offered : γ}
    {entry : String × γ} (h : entry ∈ (registry.insertIfAbsent url offered).entries) :
    entry ∈ registry.entries ∨ (registry.find? url = none ∧ entry = (url, offered)) := by
  cases hfind : registry.find? url with
  | some client =>
    rw [insertIfAbsent_of_find?_eq_some hfind] at h
    exact .inl h
  | none =>
    rw [entries_insertIfAbsent_of_find?_eq_none hfind, List.mem_append, List.mem_singleton] at h
    exact h.imp_right fun heq => ⟨rfl, heq⟩

/-- No base URL gets a second entry by an offer. -/
theorem keys_nodup_insertIfAbsent {registry : Registry γ} (h : registry.keys.Nodup) (url : String)
    (offered : γ) : (registry.insertIfAbsent url offered).keys.Nodup := by
  cases hfind : registry.find? url with
  | some client => rwa [insertIfAbsent_of_find?_eq_some hfind]
  | none =>
    have habsent := find?_eq_none_iff.1 hfind
    unfold keys at h habsent ⊢
    rw [entries_insertIfAbsent_of_find?_eq_none hfind, List.map_append]
    refine List.nodup_append.2 ⟨h, by simp, ?_⟩
    intro key hkey other hother heq
    rw [List.map_singleton, List.mem_singleton] at hother
    rw [heq, hother] at hkey
    exact habsent hkey

/-- What is found stays found when entries are added at the end. -/
theorem find?_mono {registry later : Registry γ} {url : String} {client : γ}
    (hentries : registry.entries <+: later.entries) (h : registry.find? url = some client) :
    later.find? url = some client :=
  hentries.lookup_eq_some h

/-- The client that an offer brings is the registered one, or the offered one if there is none. -/
theorem clientAfter_eq (registry : Registry γ) (url : String) (offered : γ) :
    registry.clientAfter url offered = (registry.find? url).getD offered := by
  unfold clientAfter
  cases h : registry.find? url with
  | some client => rw [insertIfAbsent_of_find?_eq_some h, h]
  | none =>
    unfold find? at h ⊢
    rw [entries_insertIfAbsent_of_find?_eq_none h, List.lookup_append, h]
    simp

/-- The client that an offer brings is the one that is registered after it. -/
theorem find?_insertIfAbsent_self (registry : Registry γ) (url : String) (offered : γ) :
    (registry.insertIfAbsent url offered).find? url = some (registry.clientAfter url offered) := by
  rw [clientAfter_eq]
  cases h : registry.find? url with
  | some client => rw [insertIfAbsent_of_find?_eq_some h, h, Option.getD_some]
  | none =>
    unfold find? at h ⊢
    rw [entries_insertIfAbsent_of_find?_eq_none h, List.lookup_append, h]
    simp

/-- An offer changes nothing for other base URLs. -/
theorem find?_insertIfAbsent_of_ne (registry : Registry γ) {url other : String} (hne : other ≠ url)
    (offered : γ) : (registry.insertIfAbsent url offered).find? other = registry.find? other := by
  cases h : registry.find? url with
  | some client => rw [insertIfAbsent_of_find?_eq_some h]
  | none =>
    unfold find? at h ⊢
    have hother : (other == url) = false := beq_false_of_ne hne
    rw [entries_insertIfAbsent_of_find?_eq_none h, List.lookup_append, List.lookup_cons, hother,
      List.lookup_nil, Option.or_none]

/-! ## Obtaining a client -/

/-- A registered client is obtained as it is, without a request. -/
theorem obtain_of_find?_eq_some {registry : Registry} {connection : Connection} {client : Client}
    (h : registry.find? connection.baseUrl = some client) (world : World) :
    registry.obtain world connection = { exchange := pure client, registry } := by
  unfold obtain
  rw [h]

/-- Without a registered client, what comes of obtaining one is what comes of building it. -/
theorem exchange_obtain_of_find?_eq_none {registry : Registry} {connection : Connection}
    (h : registry.find? connection.baseUrl = none) (world : World) :
    (registry.obtain world connection).exchange = Client.build world connection := by
  have hafter : ∀ client, registry.clientAfter connection.baseUrl client = client := by
    intro client
    rw [clientAfter_eq, h, Option.getD_none]
  unfold obtain
  rw [h]
  cases hbuilt : Client.build world connection with
  | mk result requests =>
    cases result with
    | error error => rfl
    | ok client => simp only [hafter]

/-- A client that could be built is offered. -/
theorem registry_obtain_of_ok {registry : Registry} {world : World} {connection : Connection}
    {client : Client} (h : registry.find? connection.baseUrl = none)
    (hbuild : (Client.build world connection).result = .ok client) :
    (registry.obtain world connection).registry =
      registry.insertIfAbsent connection.baseUrl client := by
  unfold obtain
  rw [h]
  simp only [hbuild]

/-- A client that could not be built leaves the registry as it is. -/
theorem registry_obtain_of_error {registry : Registry} {world : World} {connection : Connection}
    {error : Error} (h : registry.find? connection.baseUrl = none)
    (hbuild : (Client.build world connection).result = .error error) :
    (registry.obtain world connection).registry = registry := by
  unfold obtain
  rw [h]
  simp only [hbuild]

/-- Obtaining a client registers one that could be built under its own base URL, if there was none,
and changes nothing else. -/
theorem find?_registry_obtain (registry : Registry) (world : World) (connection : Connection)
    (url : String) :
    (registry.obtain world connection).registry.find? url =
      (registry.find? url).or (if url = connection.baseUrl then
        (Client.build world connection).result.toOption else none) := by
  cases h : registry.find? connection.baseUrl with
  | some client =>
    rw [obtain_of_find?_eq_some h]
    by_cases hurl : url = connection.baseUrl
    · rw [hurl, h, Option.some_or]
    · rw [if_neg hurl, Option.or_none]
  | none =>
    cases hbuild : (Client.build world connection).result with
    | error error =>
      rw [registry_obtain_of_error h hbuild]
      split <;> exact Option.or_none.symm
    | ok client =>
      rw [registry_obtain_of_ok h hbuild]
      by_cases hurl : url = connection.baseUrl
      · rw [hurl, find?_insertIfAbsent_self, clientAfter_eq, h, if_pos rfl]
        rfl
      · rw [find?_insertIfAbsent_of_ne _ hurl, if_neg hurl, Option.or_none]

/-- A client that was obtained is registered, whether it was there or had to be built. -/
theorem find?_registry_obtain_of_ok {registry : Registry} {world : World} {connection : Connection}
    {client : Client} (h : (registry.obtain world connection).exchange.result = .ok client) :
    (registry.obtain world connection).registry.find? connection.baseUrl = some client := by
  rw [find?_registry_obtain, if_pos rfl]
  cases hfind : registry.find? connection.baseUrl with
  | some registered =>
    rw [obtain_of_find?_eq_some hfind] at h
    cases h
    rfl
  | none =>
    rw [exchange_obtain_of_find?_eq_none hfind] at h
    rw [h]
    rfl

/-- If there is no client afterwards, none could be built, and nothing is registered. -/
theorem exists_error_of_find?_registry_obtain {registry : Registry} {world : World}
    {connection : Connection}
    (h : (registry.obtain world connection).registry.find? connection.baseUrl = none) :
    ∃ error, (Client.build world connection).result = .error error ∧
      (registry.obtain world connection).exchange.result = .error error ∧
      (registry.obtain world connection).registry = registry := by
  rw [find?_registry_obtain, if_pos rfl, Option.or_eq_none_iff] at h
  obtain ⟨hfind, hnone⟩ := h
  cases hbuild : (Client.build world connection).result with
  | ok client =>
    rw [hbuild] at hnone
    cases hnone
  | error error =>
    refine ⟨error, rfl, ?_, registry_obtain_of_error hfind hbuild⟩
    rw [exchange_obtain_of_find?_eq_none hfind, hbuild]

/-- A client that is registered after it was asked for is the one that was obtained. -/
theorem result_obtain_of_find? {registry : Registry} {world : World} {connection : Connection}
    {client : Client}
    (h : (registry.obtain world connection).registry.find? connection.baseUrl = some client) :
    (registry.obtain world connection).exchange.result = .ok client := by
  cases hobtain : (registry.obtain world connection).exchange.result with
  | ok obtained =>
    rw [find?_registry_obtain_of_ok hobtain] at h
    rw [Option.some.inj h]
  | error error =>
    cases hfind : registry.find? connection.baseUrl with
    | some registered =>
      rw [obtain_of_find?_eq_some hfind] at hobtain
      cases hobtain
    | none =>
      rw [exchange_obtain_of_find?_eq_none hfind] at hobtain
      rw [registry_obtain_of_error hfind hobtain, hfind] at h
      cases h

/-- Obtaining a client leaves the entries of other base URLs as they are. -/
theorem find?_registry_obtain_of_ne (registry : Registry) (world : World) {connection : Connection}
    {url : String} (h : url ≠ connection.baseUrl) :
    (registry.obtain world connection).registry.find? url = registry.find? url := by
  rw [find?_registry_obtain, if_neg h, Option.or_none]

/-! ## Keys -/

/-- Each client is registered under its own base URL. -/
def IsKeyed (registry : Registry) : Prop :=
  ∀ url client, registry.find? url = some client → client.baseUrl = url

/-- No entry has a wrong key in the beginning. -/
theorem isKeyed_empty : IsKeyed empty := nofun

/-- Obtaining a client registers it under its own base URL. -/
theorem isKeyed_obtain {registry : Registry} (h : registry.IsKeyed) (world : World)
    (connection : Connection) : (registry.obtain world connection).registry.IsKeyed := by
  intro url client hfind
  rw [find?_registry_obtain, Option.or_eq_some_iff] at hfind
  rcases hfind with hfind | ⟨-, hfind⟩
  · exact h url client hfind
  · split at hfind
    · next hurl =>
      cases hbuild : (Client.build world connection).result with
      | error error =>
        rw [hbuild] at hfind
        cases hfind
      | ok built =>
        rw [hbuild] at hfind
        cases hfind
        rw [hurl, Client.baseUrl_of_build hbuild]
    · cases hfind

end Registry

end MetricGateway
