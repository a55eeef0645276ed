import MetricGateway.Client

/-!
# The registry of clients

Each base URL has one client, which is built on its first use and kept from then on. Looking a
client up, building it and registering it are separate steps: a client that was built although
another one has been registered meanwhile is given up.
-/

namespace MetricGateway

/-- The clients that have been registered, or what stands for them, with their base URLs. -/
structure Registry (γ : Type := Client) where
  entries : List (String × γ) := []
  deriving DecidableEq, Repr

namespace Registry

variable {γ : Type}

/-- A registry without clients. -/
def empty : Registry γ := {}

/-- How many clients are registered. -/
def size (registry : Registry γ) : Nat := registry.entries.length

/-- The client of a base URL. -/
def find? (registry : Registry γ) (baseUrl : String) : Option γ :=
  registry.entries.lookup baseUrl

/-- A registry with a client for a base URL that has none yet. -/
def insertIfAbsent (registry : Registry γ) (baseUrl : String) (client : γ) : Registry γ :=
  match registry.find? baseUrl with
  | some _ => registry
  | none => { entries := registry.entries ++ [(baseUrl, client)] }

/-- The client of a base URL after one has been offered. -/
def clientAfter (registry : Registry γ) (baseUrl : String) (offered : γ) : γ :=
  ((registry.insertIfAbsent baseUrl offered).find? baseUrl).getD offered

end Registry

/-- What comes of an operation that may register a client. -/
structure Step (α : Type) where
  exchange : Exchange α
  /-- The registry after the operation. -/
  registry : Registry

namespace Registry

/-- The client for a connection. It is built and registered if its base URL has none yet. -/
def obtain (registry : Registry) (world : World) (connection : Connection) : Step Client :=
  match registry.find? connection.baseUrl with
  | some client => { exchange := pure client, registry }
  | none =>
    let built := Client.build world connection
    match built.result with
    | .error _ => { exchange := built, registry }
    | .ok client =>
      { exchange := { built with result := .ok (registry.clientAfter connection.baseUrl client) }
        registry := registry.insertIfAbsent connection.baseUrl client }

/-- Goes on with the client for a connection. -/
def withClient {α : Type} (registry : Registry) (world : World) (connection : Connection)
    (act : Client → Exchange α) : Step α :=
  let obtained := registry.obtain world connection
  { exchange := obtained.exchange.andThen act, registry := obtained.registry }

end Registry

end MetricGateway
