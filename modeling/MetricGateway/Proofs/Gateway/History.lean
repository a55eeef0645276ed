import Mathlib.Data.List.Forall2
import MetricGateway.Proofs.Exchange
import MetricGateway.Proofs.Registry.Entries

/-!
# Histories of operations

Operations of the gateway follow each other and share nothing but the registry of clients. What an
operation finds there is decided by one earlier operation only: the first one on its base URL whose
client could be built (`find?_registryAfter`). `isolated` draws the consequences. An operation
depends on nothing else in its history; once a base URL is registered, the settings with which later
operations come do not matter, and no credentials are resolved for them; and operations on other
base URLs, or with failed constructions, can be added and left out at will.
-/

namespace MetricGateway

/-- A step with another form of its value. -/
def Step.map {α β : Type} (f : α → β) (step : Step α) : Step β where
  exchange := step.exchange.map f
  registry := step.registry

namespace Gateway

/-- What the gateway is asked to do. -/
inductive Task where
  | probe
  | fetchMetric (query : Query)
  | fieldNames (limit : Nat)
  | fieldValues (field : String) (start : Option String) (offset limit : Nat)

/-- A task for a connection at a time. -/
structure Operation where
  connection : Connection
  task : Task
  /-- The time, in seconds since the beginning of 1970. -/
  seconds : Nat

/-- What an operation answers. -/
inductive Answer where
  | health (health : Client.Health)
  | telemetry (telemetry : Telemetry)
  | page (page : Page)

namespace Operation

/-- The base URL that an operation is about. -/
def baseUrl (op : Operation) : String := op.connection.baseUrl

/-- The outside at the time of an operation. Whoever answers there goes by the request alone. -/
def world (outside : World) (op : Operation) : World := { outside with seconds := op.seconds }

/-- Does what an operation asks for. -/
def run (outside : World) (registry : Registry) (op : Operation) : Step Answer :=
  match op.task with
  | .probe => (probe registry (op.world outside) op.connection).map .health
  | .fetchMetric query =>
    (fetchMetric registry (op.world outside) op.connection query).map .telemetry
  | .fieldNames limit => (fieldNames registry (op.world outside) op.connection limit).map .page
  | .fieldValues field start offset limit =>
    (fieldValues registry (op.world outside) op.connection field start offset limit).map .page

/-- What an operation does once it has its client. -/
def act (outside : World) (op : Operation) (client : Client) : Exchange Answer :=
  match op.task with
  | .probe => (client.probe (op.world outside)).map .health
  | .fetchMetric query => (telemetry (op.world outside) query client).map .telemetry
  | .fieldNames limit =>
    (do
      let page ← client.labels (op.world outside) limit
      pure (withNames Condition.reservedKeys page) : Exchange Page).map .page
  | .fieldValues field start offset limit =>
    (client.labelValues (op.world outside) (labelOf field) start offset limit).map .page

/-- The client that an operation builds, if it finds none. -/
def construct (outside : World) (op : Operation) : Except Error Client :=
  (Client.build (op.world outside) op.connection).result

/-- Whether an operation is about a base URL and can build a client for it. -/
def constructsFor (outside : World) (url : String) (op : Operation) : Bool :=
  op.baseUrl = url && (op.construct outside).isOk

end Operation

/-- The registry after operations, one after another. -/
def registryAfter (outside : World) : Registry → List Operation → Registry
  | registry, [] => registry
  | registry, op :: rest => registryAfter outside (op.run outside registry).registry rest

/-- What comes of operations, one after another. -/
def exchanges (outside : World) : Registry → List Operation → List (Exchange Answer)
  | _, [] => []
  | registry, op :: rest =>
    (op.run outside registry).exchange :: exchanges outside (op.run outside registry).registry rest

/-- The connection details and the time of the first construction that succeeded for a base URL. -/
def firstConstruction (outside : World) (url : String) (history : List Operation) :
    Option (Connection × Nat) :=
  (history.find? (Operation.constructsFor outside url)).map fun op => (op.connection, op.seconds)

/-- The client that is built from connection details at a time. -/
def clientOf (outside : World) (first : Connection × Nat) : Option Client :=
  (Client.build { outside with seconds := first.2 } first.1).result.toOption

/-- The same operation but for the timeout, the policy for samples that are not a number, and the
settings for signatures, which may differ if it is about the given base URL. -/
def SameButSettings (url : String) (op op' : Operation) : Prop :=
  op' = op ∨ op.baseUrl = url ∧ ∃ timeoutSeconds nanPolicy aws,
    op' = { op with connection := { op.connection with timeoutSeconds, nanPolicy, aws } }

/-! ## One operation -/

namespace Operation

/-- Every operation obtains its client first and does the rest with it. -/
theorem run_eq_withClient (outside : World) (registry : Registry) (op : Operation) :
    op.run outside registry =
      registry.withClient (op.world outside) op.connection (op.act outside) := by
  obtain ⟨connection, task, seconds⟩ := op
  cases task <;> exact congrArg (Step.mk · _) (Exchange.map_andThen _ _ _)

/-- An operation registers the client that it constructs for its own base URL, if there was none,
and changes nothing else. -/
theorem find?_registry_run (outside : World) (registry : Registry) (op : Operation) (url : String) :
    (op.run outside registry).registry.find? url = (registry.find? url).or
      (if url = op.baseUrl then (op.construct outside).toOption else none) := by
  rw [run_eq_withClient]
  exact Registry.find?_registry_obtain _ _ _ _

/-- With a registered client, that client decides everything: the connection has no say, and the
registry stays as it is. -/
theorem run_of_find?_eq_some {registry : Registry} {op : Operation} {client : Client}
    (h : registry.find? op.baseUrl = some client) (outside : World) :
    op.run outside registry = { exchange := op.act outside client, registry } := by
  rw [run_eq_withClient]
  unfold Registry.withClient
  rw [Registry.obtain_of_find?_eq_some h]
  rfl

/-- What comes of an operation depends on the client of its base URL only. -/
theorem exchange_run_congr {registry registry' : Registry} {op : Operation}
    (h : registry.find? op.baseUrl = registry'.find? op.baseUrl) (outside : World) :
    (op.run outside registry).exchange = (op.run outside registry').exchange := by
  cases hfind : registry'.find? op.baseUrl with
  | some client =>
    rw [run_of_find?_eq_some hfind, run_of_find?_eq_some (h.trans hfind)]
  | none =>
    rw [run_eq_withClient, run_eq_withClient]
    unfold Registry.withClient
    dsimp only
    rw [Registry.exchange_obtain_of_find?_eq_none hfind,
      Registry.exchange_obtain_of_find?_eq_none (h.trans hfind)]

/-- With a client, an operation does nothing but send requests to the backend. -/
theorem meets_act {P : List Request → List BackendRequest → Prop} (h : Backend.IsKept P)
    (outside : World) (op : Operation) (client : Client) : (op.act outside client).Meets P := by
  unfold act
  split
  · exact (client.meets_probe h _).map _
  · exact (meets_telemetry h _ _ _).map _
  · exact (h.isPartwise.bind (client.meets_labels h _ _) fun page => h.isPartwise.ofResult _).map _
  · exact (client.meets_labelValues h _ _ _ _ _).map _

/-- Settings that differ make no difference to what an operation does with its client. -/
theorem act_of_sameButSettings {url : String} {op op' : Operation} (h : SameButSettings url op op')
    (outside : World) : op'.act outside = op.act outside := by
  obtain rfl | ⟨-, timeoutSeconds, nanPolicy, aws, rfl⟩ := h
  · rfl
  · rfl

/-- Operations that differ in settings only have the same base URL. -/
theorem baseUrl_of_sameButSettings {url : String} {op op' : Operation}
    (h : SameButSettings url op op') : op'.baseUrl = op.baseUrl := by
  obtain rfl | ⟨-, timeoutSeconds, nanPolicy, aws, rfl⟩ := h
  · rfl
  · rfl

end Operation

/-! ## Histories -/

/-- The registry after operations is what the later ones leave of that after the first one. -/
theorem registryAfter_cons (outside : World) (registry : Registry) (op : Operation)
    (rest : List Operation) : registryAfter outside registry (op :: rest) =
      registryAfter outside (op.run outside registry).registry rest := rfl

/-- The exchanges of operations are that of the first one and those of the others. -/
theorem exchanges_cons (outside : World) (registry : Registry) (op : Operation)
    (rest : List Operation) : exchanges outside registry (op :: rest) =
      (op.run outside registry).exchange ::
        exchanges outside (op.run outside registry).registry rest := rfl

/-- What it means that an operation constructs a client for a base URL. -/
theorem Operation.constructsFor_iff {outside : World} {url : String} {op : Operation} :
    op.constructsFor outside url = true ↔
      op.baseUrl = url ∧ ∃ client, op.construct outside = .ok client := by
  unfold constructsFor
  rw [Bool.and_eq_true, decide_eq_true_eq]
  cases hbuild : op.construct outside with
  | error error => simp [Except.isOk, Except.toBool]
  | ok client => simp [Except.isOk, Except.toBool]

/-- The first construction is that of the first operation, if this one succeeds for the base URL. -/
theorem bind_firstConstruction_cons (outside : World) (url : String) (op : Operation)
    (rest : List Operation) :
    (firstConstruction outside url (op :: rest)).bind (clientOf outside) =
      (if url = op.baseUrl then (op.construct outside).toOption else none).or
        ((firstConstruction outside url rest).bind (clientOf outside)) := by
  unfold firstConstruction
  rw [List.find?_cons]
  cases hconstructs : op.constructsFor outside url with
  | true =>
    obtain ⟨hurl, client, hbuild⟩ := Operation.constructsFor_iff.1 hconstructs
    rw [if_pos hurl.symm, hbuild, Option.map_some, Option.bind_some]
    change (op.construct outside).toOption = _
    rw [hbuild]
    rfl
  | false =>
    -- Either the operation is about another base URL, or its construction fails.
    have hnone : (if url = op.baseUrl then (op.construct outside).toOption else none) = none := by
      split
      · next hurl =>
        cases hbuild : op.construct outside with
        | error error => rfl
        | ok client =>
          rw [Operation.constructsFor_iff.2 ⟨hurl.symm, client, hbuild⟩] at hconstructs
          cases hconstructs
      · rfl
    rw [hnone, Option.none_or]

/-- A successful construction registers its client for good, and only the first one counts. -/
theorem find?_registryAfter (outside : World) (registry : Registry) (history : List Operation)
    (url : String) : (registryAfter outside registry history).find? url =
      (registry.find? url).or ((firstConstruction outside url history).bind
        (clientOf outside)) := by
  induction history generalizing registry with
  | nil => exact Option.or_none.symm
  | cons op rest ih =>
    rw [registryAfter_cons, ih, Operation.find?_registry_run, Option.or_assoc,
      bind_firstConstruction_cons]

/-- After a history that begins with an empty registry, a base URL has the client of the first
construction that succeeded for it. -/
theorem find?_registryAfter_empty (outside : World) (history : List Operation) (url : String) :
    (registryAfter outside .empty history).find? url =
      (firstConstruction outside url history).bind (clientOf outside) := by
  rw [find?_registryAfter, Registry.find?_empty, Option.none_or]

/-- The first construction that succeeded gives a client. -/
theorem exists_find?_registryAfter {outside : World} {history : List Operation} {url : String}
    (h : (firstConstruction outside url history).isSome) :
    ∃ client, (registryAfter outside .empty history).find? url = some client := by
  obtain ⟨first, hfirst⟩ := Option.isSome_iff_exists.1 h
  obtain ⟨op, hop, rfl⟩ := Option.map_eq_some_iff.1 hfirst
  obtain ⟨-, client, hbuild⟩ := Operation.constructsFor_iff.1 (List.find?_some hop)
  refine ⟨client, ?_⟩
  rw [find?_registryAfter_empty, hfirst, Option.bind_some]
  change (op.construct outside).toOption = some client
  rw [hbuild]
  rfl

/-- What comes of an operation depends on the first construction that succeeded for its base URL,
and on nothing else that came before. -/
theorem exchange_run_of_firstConstruction {outside : World} {history history' : List Operation}
    {op : Operation} (h : firstConstruction outside op.baseUrl history =
      firstConstruction outside op.baseUrl history') :
    (op.run outside (registryAfter outside .empty history)).exchange =
      (op.run outside (registryAfter outside .empty history')).exchange := by
  refine op.exchange_run_congr ?_ outside
  rw [find?_registryAfter_empty, find?_registryAfter_empty, h]

/-- Settings do not matter once a base URL is registered: two histories that differ in them only
have the same exchanges and lead to the same registry. -/
theorem eq_of_sameButSettings {outside : World} {url : String} {later later' : List Operation}
    (h : List.Forall₂ (SameButSettings url) later later') {registry : Registry} {client : Client}
    (hregistry : registry.find? url = some client) :
    exchanges outside registry later = exchanges outside registry later' ∧
      registryAfter outside registry later = registryAfter outside registry later' := by
  induction h generalizing registry with
  | nil => exact ⟨rfl, rfl⟩
  | @cons op op' rest rest' hop _ ih =>
    -- Both operations find the same client, and settings make no difference to what it does.
    have hrun : op'.run outside registry = op.run outside registry := by
      obtain rfl | ⟨hurl, hsettings⟩ := hop
      · rfl
      · have hsame : SameButSettings url op op' := .inr ⟨hurl, hsettings⟩
        have hclient : registry.find? op.baseUrl = some client := by rw [hurl, hregistry]
        have hclient' : registry.find? op'.baseUrl = some client := by
          rw [Operation.baseUrl_of_sameButSettings hsame, hclient]
        rw [Operation.run_of_find?_eq_some hclient, Operation.run_of_find?_eq_some hclient',
          Operation.act_of_sameButSettings hsame]
    have hnext : (op.run outside registry).registry.find? url = some client := by
      rw [Operation.find?_registry_run, hregistry, Option.some_or]
    obtain ⟨hexchanges, hafter⟩ := ih hnext
    rw [exchanges_cons, exchanges_cons, registryAfter_cons, registryAfter_cons, hrun, hexchanges,
      hafter]
    exact ⟨rfl, rfl⟩

/-- What comes of the operations on a base URL is what comes of them alone, if the registries agree
on this base URL at first. -/
theorem filter_exchanges {outside : World} {url : String} (history : List Operation)
    {registry registry' : Registry} (h : registry.find? url = registry'.find? url) :
    (history.zip (exchanges outside registry history)).filter (fun entry => entry.1.baseUrl = url) =
      (history.filter fun op => op.baseUrl = url).zip
        (exchanges outside registry' (history.filter fun op => op.baseUrl = url)) := by
  induction history generalizing registry registry' with
  | nil => rfl
  | cons op rest ih =>
    rw [exchanges_cons, List.zip_cons_cons]
    by_cases hurl : op.baseUrl = url
    · have hexchange :
          (op.run outside registry).exchange = (op.run outside registry').exchange := by
        refine Operation.exchange_run_congr ?_ outside
        rw [hurl, h]
      rw [List.filter_cons_of_pos (by simpa using hurl),
        List.filter_cons_of_pos (by simpa using hurl), exchanges_cons, List.zip_cons_cons,
        hexchange, ih]
      rw [Operation.find?_registry_run, Operation.find?_registry_run, h]
    · -- An operation on another base URL leaves the client of this one as it is.
      rw [List.filter_cons_of_neg (by simpa using hurl),
        List.filter_cons_of_neg (by simpa using hurl)]
      refine ih ?_
      rw [Operation.find?_registry_run, if_neg (Ne.symm hurl), Option.or_none, h]

/-- What operations of one base URL can learn of the others, and of their own settings: nothing but
what the first construction that succeeded for it has fixed. -/
structure Isolated (outside : World) : Prop where
  /-- What comes of an operation depends on the operation and on the details and the time of the
  first construction that succeeded for its base URL, and on nothing else that came before. -/
  of_first : ∀ (history history' : List Operation) (op : Operation),
    firstConstruction outside op.baseUrl history = firstConstruction outside op.baseUrl history' →
      (op.run outside (registryAfter outside .empty history)).exchange =
        (op.run outside (registryAfter outside .empty history')).exchange
  /-- Once a base URL is registered, other settings of later operations on it change no request, no
  answer and no later state. -/
  of_settings : ∀ (url : String) (before later later' : List Operation),
    (firstConstruction outside url before).isSome →
    List.Forall₂ (SameButSettings url) later later' →
      exchanges outside (registryAfter outside .empty before) later =
          exchanges outside (registryAfter outside .empty before) later' ∧
        registryAfter outside (registryAfter outside .empty before) later =
          registryAfter outside (registryAfter outside .empty before) later'
  /-- An operation on a registered base URL resolves no credentials. -/
  asksBackendOnly : ∀ (history : List Operation) (op : Operation),
    (firstConstruction outside op.baseUrl history).isSome →
    (op.run outside (registryAfter outside .empty history)).exchange.AsksBackendOnly
  /-- Operations on other base URLs, and those with failed constructions, may be added and left out
  anywhere in the history of an operation. -/
  of_others : ∀ (history history' : List Operation) (op : Operation),
    history.filter (Operation.constructsFor outside op.baseUrl) =
        history'.filter (Operation.constructsFor outside op.baseUrl) →
      (op.run outside (registryAfter outside .empty history)).exchange =
        (op.run outside (registryAfter outside .empty history')).exchange
  /-- What comes of the operations on a base URL in a history is what comes of them alone. -/
  alone : ∀ (history : List Operation) (url : String),
    (history.zip (exchanges outside .empty history)).filter (fun entry => entry.1.baseUrl = url) =
      (history.filter fun op => op.baseUrl = url).zip
        (exchanges outside .empty (history.filter fun op => op.baseUrl = url))

/-- Base URLs are isolated from each other, and from the settings of later operations. -/
theorem isolated (outside : World) : Isolated outside where
  of_first history history' op h := exchange_run_of_firstConstruction h
  of_settings url before later later' hbefore h := by
    obtain ⟨client, hclient⟩ := exists_find?_registryAfter hbefore
    exact eq_of_sameButSettings h hclient
  asksBackendOnly history op hhistory := by
    obtain ⟨client, hclient⟩ := exists_find?_registryAfter hhistory
    rw [Operation.run_of_find?_eq_some hclient]
    exact op.meets_act Backend.isKept_asksBackendOnly outside client
  of_others history history' op h := by
    -- The first construction is the head of what the filter leaves.
    apply exchange_run_of_firstConstruction
    unfold firstConstruction
    rw [← List.head?_filter, ← List.head?_filter, h]
  alone history url := filter_exchanges history rfl

/-- An outside whose backend lists one label, and whose token service never answers. -/
def listingWorld : World :=
  .still (.complete {
    status := 200
    contentType := "application/json"
    body := Text.utf8 "\x7b\"status\":\"success\",\"data\":[\"job\"]\x7d" }) 0

/-- A probe of a backend without signatures. -/
def plainProbe : Operation where
  connection := { url := "http://prom.test" }
  task := .probe
  seconds := 0

/-- A listing of field names after the probe. -/
def plainListing : Operation where
  connection := { url := "http://prom.test" }
  task := .fieldNames 10
  seconds := 60

/-- The same listing with settings for signatures that name no role. No client could be built from
them. -/
def signedListing : Operation where
  connection :=
    { url := "http://prom.test", timeoutSeconds := 1, nanPolicy := .skip, aws := some {} }
  task := .fieldNames 10
  seconds := 60

/-- After the probe, the listing that comes with other settings is the listing without them, and
asks the backend only. -/
theorem isolated_listing :
    firstConstruction listingWorld "http://prom.test" [plainProbe] =
        some ({ url := "http://prom.test" }, 0) ∧
      exchanges listingWorld (registryAfter listingWorld .empty [plainProbe]) [plainListing] =
        exchanges listingWorld (registryAfter listingWorld .empty [plainProbe]) [signedListing] ∧
      (signedListing.run listingWorld
        (registryAfter listingWorld .empty [plainProbe])).exchange.AsksBackendOnly := by
  have hlistings : List.Forall₂ (SameButSettings "http://prom.test") [plainListing]
      [signedListing] := .cons (.inr ⟨rfl, 1, .skip, some {}, rfl⟩) .nil
  refine ⟨rfl, ?_, (isolated listingWorld).asksBackendOnly [plainProbe] signedListing rfl⟩
  exact ((isolated listingWorld).of_settings _ [plainProbe] _ _ rfl hlistings).1

end Gateway

end MetricGateway
