import MetricGateway.Signing.Signature
import MetricGateway.Url

/-!
# Exchanges

An exchange is what comes of an operation that talks to the outside: a value or an error, the
requests that were sent on the way, and those with which redirects were followed. The outside is
what comes back for each request, and whoever else has a say in what an operation comes to.
-/

namespace MetricGateway

/-- A request to the token service for the credentials of a role. -/
structure TokenRequest where
  /-- Who asks. -/
  caller : Credentials
  role : String
  sessionName : String
  externalId : Option String
  region : String
  /-- When it is asked, in seconds since the beginning of 1970. -/
  seconds : Nat
  deriving DecidableEq, Repr

/-- A request to a backend, or to where a backend sends who asks. -/
structure BackendRequest where
  url : String
  /-- The headers that say who asks. Those that go with every request are left out. -/
  headers : List Header
  deriving DecidableEq, Repr

/-- A request of any kind. -/
inductive Request where
  | token (request : TokenRequest)
  | backend (request : BackendRequest)
  deriving DecidableEq, Repr

/-- An answer of the token service. -/
structure TokenReply where
  status : Nat
  body : String
  deriving DecidableEq, Repr

/-- An answer of a backend. -/
structure Reply where
  status : Nat
  contentType : String
  body : Text.Bytes
  /-- The text of the body, if the content type names another character set than those that are
  read here. -/
  foreign : Option String := none
  deriving DecidableEq, Repr

/-- What comes back for a request to a backend. -/
inductive Delivery where
  /-- Nothing, for a cause. -/
  | nothing (cause : String)
  /-- An answer whose body cannot be read, with what is wrong with it. -/
  | incomplete (status : Nat) (details : String)
  | complete (reply : Reply)
  deriving DecidableEq, Repr

/-- The status that is delivered, if anything is. -/
def Delivery.status? : Delivery → Option Nat
  | nothing _ => none
  | incomplete status _ => some status
  | complete reply => some reply.status

/-- What comes back for a request, and where else it sends who asks. -/
structure Hop where
  delivery : Delivery
  /-- The URL that the answer names as the place to go to, if it names one. -/
  location : Option Url := none
  deriving DecidableEq, Repr

/-- The outside of the gateway during an operation. -/
structure World where
  /-- What comes back for a request, given how many seconds there are for it and how many redirects
  have led to it. -/
  backend : (timeoutSeconds followed : Nat) → BackendRequest → Hop
  /-- What the token service answers to the same request time after time, if it answers at all. -/
  tokenService : TokenRequest → Nat → Option TokenReply
  /-- Whom the default chain of credentials finds. -/
  chain : Option Credentials
  /-- Why no HTTP client can be built, if there is anything in its way. -/
  clientFault : Option String := none
  /-- The time, in seconds since the beginning of 1970. -/
  seconds : Nat

/-- What comes of an operation that sends requests. -/
structure Exchange (α : Type) where
  result : Except Error α
  /-- The requests that were sent, in their order. -/
  requests : List Request := []
  /-- The requests with which redirects were followed, in their order. -/
  followed : List BackendRequest := []

namespace Exchange

/-- An exchange without requests. -/
def ofResult {α : Type} (result : Except Error α) : Exchange α := { result }

/-- An exchange that goes on with the value of another one. -/
def andThen {α β : Type} (first : Exchange α) (next : α → Exchange β) : Exchange β :=
  match first.result with
  | .error error => { first with result := .error error }
  | .ok value =>
    let second := next value
    { result := second.result
      requests := first.requests ++ second.requests
      followed := first.followed ++ second.followed }

instance : Monad Exchange where
  pure value := ofResult (.ok value)
  bind := andThen

instance : MonadLift (Except Error) Exchange where
  monadLift := ofResult

end Exchange

end MetricGateway
