import MetricGateway.Text.Quoted

/-!
# Errors of the gateway

Every way in which an operation of the gateway can fail, with its wording.
-/

namespace MetricGateway

/-- Why a query cannot be compiled. -/
inductive QueryError where
  /-- Not exactly one condition names what is queried, or it does so with a set. -/
  | requiredSelector (message : String)
  /-- No aggregation method has this name. -/
  | unsupportedAggregation (method : String)
  deriving DecidableEq, Repr

/-- The wording of a query error. -/
def QueryError.message : QueryError → String
  | requiredSelector message => message
  | unsupportedAggregation method => "Unsupported aggregation: " ++ method

/-- Why the answer of the backend cannot be used. -/
inductive ResponseError where
  /-- Several series match, and differ in these labels. -/
  | ambiguousMetric (fields : List String)
  /-- No series matches the query. -/
  | metricNotFound (query : String)
  /-- The answer has another shape than the expected one. -/
  | invalidPayload (details : String)
  /-- The backend reports an error. -/
  | backend (payload : String)
  deriving DecidableEq, Repr

/-- The wording of a response error. -/
def ResponseError.message : ResponseError → String
  | ambiguousMetric fields =>
    "Too many metrics. Differentiating fields: " ++ Text.quotedList fields
  | metricNotFound query => "Metric not found for query " ++ query
  | invalidPayload details => "Invalid response payload: " ++ details
  | backend payload => "Backend error: " ++ payload

/-- Why no answer of the backend is there to be used. -/
inductive TransportError where
  /-- No HTTP client can be built. -/
  | noClient (cause : String)
  /-- A header of the request holds a character that no header may hold. -/
  | illegalHeader
  /-- The request would not go over HTTP. -/
  | unsupportedScheme (url : String)
  /-- The URL cannot be put into a request. -/
  | unsendableUrl (url : String)
  /-- Nothing came back. -/
  | noAnswer (url cause : String)
  /-- A redirect cannot be followed. -/
  | redirect (url cause : String)
  /-- The body cannot be read. -/
  | incompleteBody (details : String)
  /-- The backend answers with a status that is no success. -/
  | refused (url : String) (status : Nat) (body : String)
  deriving DecidableEq, Repr

/-- The wording of a transport error. -/
def TransportError.message : TransportError → String
  | noClient cause => "builder error: " ++ cause
  | illegalHeader => "builder error: failed to parse header value"
  | unsupportedScheme url => "builder error for url (" ++ url ++ "): URL scheme is not allowed"
  | unsendableUrl url => "builder error for url (" ++ url ++ "): Parsed Url is not a valid Uri"
  | noAnswer url cause => "error sending request for url (" ++ url ++ "): " ++ cause
  | redirect url cause => "error following redirect for url (" ++ url ++ "): " ++ cause
  | incompleteBody details => details
  | refused url status body =>
    "Failed to call [" ++ url ++ "] . Status code " ++ toString status ++ ". " ++ body

/-- Why no credentials can be obtained. -/
inductive CredentialError where
  /-- The environment names nobody who could ask for a role. -/
  | noIdentity
  /-- The token service does not answer as it should. -/
  | refused
  /-- The answer of the token service holds no credentials for this role. -/
  | noCredentials (role : String)
  deriving DecidableEq, Repr

/-- The wording of a credential error. -/
def CredentialError.message : CredentialError → String
  | noIdentity => "no identity to assume a role with"
  | refused => "the token service refuses the role"
  | noCredentials role => "AssumeRole for " ++ role ++ " returned no credentials"

/-- Why a URL cannot be read. -/
inductive UrlError where
  | noScheme
  | emptyHost
  | domain
  | domainChar
  | port
  | ipv4
  | ipv6
  deriving DecidableEq, Repr

/-- The wording of a URL error. -/
def UrlError.message : UrlError → String
  | noScheme => "relative URL without a base"
  | emptyHost => "empty host"
  | domain => "invalid international domain name"
  | domainChar => "invalid domain character"
  | port => "invalid port number"
  | ipv4 => "invalid IPv4 address"
  | ipv6 => "invalid IPv6 address"

/-- What is wrong with the description of a connection. -/
inductive ConfigurationError where
  /-- No role is named although one is to be assumed. -/
  | noRole
  /-- The base URL cannot be read. -/
  | url (base : String) (cause : UrlError)
  deriving DecidableEq, Repr

/-- The wording of a configuration error. -/
def ConfigurationError.message : ConfigurationError → String
  | noRole => "role_arn is required to assume a role"
  | url base cause => base ++ ": " ++ cause.message

/-- Why an operation of the gateway fails. -/
inductive Error where
  /-- The query cannot be compiled. -/
  | query (cause : QueryError)
  /-- The answer of the backend cannot be used. -/
  | response (cause : ResponseError)
  /-- The backend cannot be reached, or refuses the call. -/
  | transport (cause : TransportError)
  /-- No credentials can be obtained. -/
  | credential (cause : CredentialError)
  /-- The request has no canonical form that could be signed. -/
  | signing
  /-- The connection is not described well. -/
  | configuration (cause : ConfigurationError)
  deriving DecidableEq, Repr

/-- The wording of an error. -/
def Error.message : Error → String
  | query cause => "Query error: " ++ cause.message
  | response cause => "Response error: " ++ cause.message
  | transport cause => "Transport error: " ++ cause.message
  | credential cause => "Credential error: " ++ cause.message
  | signing => "Signing error: failed to create canonical request"
  | configuration cause => "Invalid configuration. " ++ cause.message

end MetricGateway
