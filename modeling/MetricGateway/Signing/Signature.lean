import MetricGateway.Error
import MetricGateway.Signing.Canonical
import MetricGateway.Time.Calendar

/-!
# Signatures

A signature is the digest of the canonical request under a key that is made from the secret, the
date, the region and the service. It is sent in a header along with the time, and with the token
of the session if there is one. A signer signs requests to managed workspaces with fixed
credentials for a fixed region.
-/

namespace MetricGateway

/-- The name and the secret with which requests are signed. -/
structure Credentials where
  accessKeyId : String
  secretAccessKey : String
  /-- The token of a session, which is sent along. -/
  sessionToken : Option String := none
  /-- When the credentials end, in seconds since the beginning of 1970. -/
  expiry : Option Int := none
  deriving DecidableEq, Repr

namespace Signing

open Time (DateTime)
open Text (Bytes)

/-- The name of the signing method. -/
def algorithm : String := "AWS4-HMAC-SHA256"

/-- The last part of every scope. -/
def terminator : String := "aws4_request"

/-- The service of managed workspaces. -/
def workspaceService : String := "aps"

/-- What a signing key is good for. -/
structure Scope where
  time : DateTime
  region : String
  service : String
  deriving DecidableEq, Repr

namespace Scope

/-- The parts of a scope. -/
def parts (scope : Scope) : List String :=
  [scope.time.compactDate, scope.region, scope.service, terminator]

/-- A scope as it is written. -/
def text (scope : Scope) : String := "/".intercalate scope.parts

/-- The key of a secret for a scope: one digest for each part, each under the one before it. -/
def key (scope : Scope) (secret : String) : Bytes :=
  scope.parts.foldl (fun key part => keyedDigest key (Text.utf8 part))
    (Text.utf8 ("AWS4" ++ secret))

end Scope

/-- Who signs, for which scope, as the beginning of an authorization. -/
def credentialText (accessKeyId : String) (scope : Scope) : String :=
  algorithm ++ " Credential=" ++ accessKeyId ++ "/" ++ scope.text

/-- The signature of a canonical request. -/
def signature (secret : String) (scope : Scope) (request : String) : String :=
  let message := "\n".intercalate [algorithm, scope.time.compact, scope.text,
    Text.hexOf (Sha256.digest (Text.utf8 request))]
  Text.hexOf (keyedDigest (scope.key secret) (Text.utf8 message))

/-- The header that says when a request is signed. -/
def dateHeader (time : DateTime) : Header := ⟨"x-amz-date", time.compact⟩

/-- The header for the token of a session. -/
def tokenHeaders (credentials : Credentials) : List Header :=
  credentials.sessionToken.toList.map fun token => ⟨"x-amz-security-token", token⟩

/-- The headers that are signed, in the order of their names. -/
def signedHeaders (credentials : Credentials) (scope : Scope) (target : Target) : List Header :=
  ⟨"host", String.ofList target.hostHeader⟩ :: dateHeader scope.time :: tokenHeaders credentials

/-- The header that carries the signature. -/
def authorization (credentials : Credentials) (scope : Scope) (method : String)
    (target : Target) : Header :=
  let headers := signedHeaders credentials scope target
  let request := canonicalRequest method target headers
  ⟨"authorization", credentialText credentials.accessKeyId scope ++
    ", SignedHeaders=" ++ headerNames headers ++
    ", Signature=" ++ signature credentials.secretAccessKey scope request⟩

/-- The headers that make a request to a URL a signed one. There are none if the URL names no
target or the token cannot stand in a header. -/
def sign? (credentials : Credentials) (scope : Scope) (method url : String) :
    Option (List Header) := do
  let target ← Target.ofUrl url
  if (credentials.sessionToken.all Header.isValue) then
    some (dateHeader scope.time :: authorization credentials scope method target ::
      tokenHeaders credentials)
  else none

end Signing

/-- Who signs requests to managed workspaces, and for which region. -/
structure Signer where
  credentials : Credentials
  region : String
  deriving DecidableEq, Repr

namespace Signer

open Signing (Scope)

/-- What is signed at a moment, given in seconds since the beginning of 1970. -/
def scope (signer : Signer) (seconds : Nat) : Scope where
  time := .ofSeconds seconds
  region := signer.region
  service := Signing.workspaceService

/-- The headers that make a request to a URL a signed one. -/
def sign (signer : Signer) (seconds : Nat) (method url : String) : Except Error (List Header) :=
  match Signing.sign? signer.credentials (signer.scope seconds) method url with
  | some headers => .ok headers
  | none => .error .signing

end Signer

end MetricGateway
