import MetricGateway.Connection
import MetricGateway.Exchange
import MetricGateway.Xml

/-!
# Credentials

What the settings of a connection give decides where the credentials come from. The token service
gives credentials to those who may assume a role. It is asked with a signed form, and answers with
a document that holds the credentials.
-/

namespace MetricGateway

/-! ## Sources -/

/-- Where credentials come from. -/
inductive CredentialSource where
  /-- They are given completely. -/
  | session (accessKeyId secretAccessKey sessionToken : String)
  /-- A role is assumed with the keys that are given. -/
  | roleWithKeys (accessKeyId secretAccessKey : String)
  /-- A role is assumed with the keys of the environment. -/
  | roleWithAmbientKeys
  deriving DecidableEq, Repr

/-- A text that is given and not empty. -/
def nonEmpty (text : Option String) : Option String := text.filter (· ≠ "")

/-- Where the credentials for a connection come from. Keys count only in pairs, and a token only
with a pair of keys. -/
def AwsSettings.source (aws : AwsSettings) : CredentialSource :=
  match nonEmpty aws.accessKeyId, nonEmpty aws.secretAccessKey, nonEmpty aws.sessionToken with
  | some id, some secret, some token => .session id secret token
  | some id, some secret, none => .roleWithKeys id secret
  | _, _, _ => .roleWithAmbientKeys

/-! ## Roles -/

namespace TokenRequest

/-- A name or a value of the form. -/
def formText (text : String) : String :=
  String.ofList (Text.percentEncode Text.isUnreserved text.toList)

/-- The fields of the form. -/
def fields (request : TokenRequest) : List (String × String) :=
  [("Action", "AssumeRole"), ("Version", "2011-06-15"), ("RoleArn", request.role),
    ("RoleSessionName", request.sessionName)] ++
  request.externalId.toList.map fun id => ("ExternalId", id)

/-- The form that is sent. -/
def body (request : TokenRequest) : String :=
  "&".intercalate (request.fields.map fun (name, value) => name ++ "=" ++ formText value)

/-- What the request is signed for. -/
def scope (request : TokenRequest) : Signing.Scope where
  time := .ofSeconds request.seconds
  region := request.region
  service := "sts"

/-- Who has signed the request, as it is said in the authorization. -/
def credential (request : TokenRequest) : String :=
  Signing.credentialText request.caller.accessKeyId request.scope

end TokenRequest

/-- Whether a status means success. -/
def isSuccess (status : Nat) : Bool := 200 ≤ status && status < 300

/-- What an answer of the token service says. -/
inductive Grant where
  /-- It cannot be read. -/
  | malformed
  /-- It holds no credentials. -/
  | nothing
  | credentials (credentials : Credentials)
  deriving DecidableEq, Repr

namespace Grant

/-- What is read of the last child of a name, if there is any. All children of the name have to be
readable. -/
def last {α : Type} (read : Xml → Option α) (element : Xml) (name : String) : Option (Option α) :=
  ((element.named name).mapM read).map List.getLast?

/-- The moment in an element. -/
def readMoment (element : Xml) : Option Int :=
  element.content?.bind fun text => Time.readMoment text.toList

/-- The credentials in an element. A part that is missing is empty, and credentials that do not say
when they end do so at the beginning of 1970. -/
def readCredentials (element : Xml) : Option Credentials := do
  let accessKeyId ← last Xml.content? element "AccessKeyId"
  let secretAccessKey ← last Xml.content? element "SecretAccessKey"
  let token ← last Xml.content? element "SessionToken"
  let expiry ← last readMoment element "Expiration"
  some {
    accessKeyId := accessKeyId.getD ""
    secretAccessKey := secretAccessKey.getD ""
    sessionToken := some (token.getD "")
    expiry := some (expiry.getD 0) }

/-- Whether a text is a whole number of 32 bits. -/
def isInt32 (text : String) : Bool :=
  let (digits, most) :=
    match text.toList with
    | '-' :: digits => (digits, 0x80000000)
    | '+' :: digits => (digits, 0x7FFFFFFF)
    | digits => (digits, 0x7FFFFFFF)
  digits ≠ [] && digits.all Char.isDigit && Text.valueOf digits ≤ most

/-- Whether a child of the result can be read, as it has to be even if nothing comes of it. -/
def isReadable (child : Xml) : Bool :=
  match child.localName with
  | "PackedPolicySize" => child.content?.any isInt32
  | "SourceIdentity" => child.content?.isSome
  | "AssumedRoleUser" =>
    ["AssumedRoleId", "Arn"].all fun name => (child.named name).all fun part => part.content?.isSome
  | _ => true

/-- What the root element of an answer says. -/
def ofRoot (root : Xml) : Option Grant :=
  if root.localName ≠ "AssumeRoleResponse" then none
  else do
    let result ← root.children.head?
    if result.localName ≠ "AssumeRoleResult" ∨ !result.children.all isReadable then none
    else
      let found ← last readCredentials result "Credentials"
      some (found.elim nothing credentials)

/-- What the body of a successful answer says. -/
def ofBody (body : String) : Grant :=
  match (Xml.read body.toList).bind ofRoot with
  | some grant => grant
  | none => malformed

end Grant

namespace TokenReply

/-- Whether asking again may help. -/
def isTransient (status : Nat) : Bool := [500, 502, 503, 504].contains status

/-- What becomes of an answer to the request for a role. -/
def credentials (reply : TokenReply) (role : String) : Except Error Credentials :=
  if isSuccess reply.status then
    match Grant.ofBody reply.body with
    | .credentials credentials => .ok credentials
    | .nothing => .error (.credential (.noCredentials role))
    | .malformed => .error (.credential .refused)
  else .error (.credential .refused)

end TokenReply

/-- The keys that the environment holds. -/
structure AmbientKeys where
  accessKeyId : Option String := none
  secretAccessKey : Option String := none
  sessionToken : Option String := none
  deriving DecidableEq, Repr

namespace AmbientKeys

/-- Whether a text holds nothing but blanks. -/
def isBlank (text : String) : Bool := Text.trim text.toList = []

/-- The credentials that the keys give to those who look for them there. Blank keys count as
missing. -/
def credentials? (keys : AmbientKeys) : Option Credentials := do
  let accessKeyId ← keys.accessKeyId.filter (!isBlank ·)
  let secretAccessKey ← keys.secretAccessKey.filter (!isBlank ·)
  let token := keys.sessionToken.filter (!isBlank ·)
  some {
    accessKeyId, secretAccessKey
    sessionToken := token.map fun text => String.ofList (Text.trim text.toList) }

end AmbientKeys

/-- How often the token service is asked again with keys that are given. -/
def repetitionsWithKeys : Nat := 49

/-- How often the token service is asked again with credentials of the default chain. -/
def repetitionsWithChain : Nat := 2

/-- Whether a request is made again after what came back for it. -/
def isRepeated : Option TokenReply → Bool
  | some reply => TokenReply.isTransient reply.status
  | none => true

/-- What comes back at the end for a request that is made again and again as long as that may help,
and how often it is made, given how many more times it may be made after this one. -/
def persist (answer : Nat → Option TokenReply) : Nat → Nat → Option TokenReply × Nat
  | 0, asked => (answer asked, asked + 1)
  | left + 1, asked =>
    if isRepeated (answer asked) then persist answer left (asked + 1)
    else (answer asked, asked + 1)

/-- The credentials that an answer to the request for a role brings. -/
def granted (role : String) : Option TokenReply → Except Error Credentials
  | some reply => reply.credentials role
  | none => .error (.credential .refused)

/-- Asks the token service for credentials. -/
def askForRole (world : World) (repetitions : Nat) (request : TokenRequest) :
    Exchange Credentials :=
  let (reply, asked) := persist (world.tokenService request) repetitions 0
  { result := granted request.role reply
    requests := List.replicate asked (.token request) }

/-- Assumes the role that settings name, with the keys of a caller if there is one. -/
def assumeRole (world : World) (aws : AwsSettings) (repetitions : Nat)
    (caller : Option Credentials) : Exchange Credentials :=
  match nonEmpty aws.roleArn, caller with
  | none, _ => .ofResult (.error (.configuration .noRole))
  | some _, none => .ofResult (.error (.credential .noIdentity))
  | some role, some caller =>
    askForRole world repetitions {
      caller, role
      sessionName := aws.roleSessionName
      externalId := aws.externalId
      region := aws.regionName
      seconds := world.seconds }

/-- Obtains the credentials for a connection. -/
def resolveCredentials (world : World) (aws : AwsSettings) : Exchange Credentials :=
  match aws.source with
  | .session accessKeyId secretAccessKey token =>
    .ofResult (.ok { accessKeyId, secretAccessKey, sessionToken := some token })
  | .roleWithKeys accessKeyId secretAccessKey =>
    assumeRole world aws repetitionsWithKeys (some { accessKeyId, secretAccessKey })
  | .roleWithAmbientKeys => assumeRole world aws repetitionsWithChain world.chain

end MetricGateway
