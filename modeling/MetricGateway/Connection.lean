import MetricGateway.Json.Record

/-!
# Connections

A connection says where a backend is and how it is to be called. Its base URL, without slashes at
the end, is what tells two backends apart.
-/

namespace MetricGateway

/-- What becomes of samples that are not a number. -/
inductive NanPolicy where
  /-- They count as zero. -/
  | zero
  /-- They are left out. -/
  | skip
  deriving DecidableEq, Repr

namespace NanPolicy

/-- The name of a policy. -/
def name : NanPolicy → String
  | zero => "ZERO"
  | skip => "NONE"

/-- The policy with the given name. Every unknown name means that samples are left out. -/
def ofName (given : String) : NanPolicy := if given = zero.name then zero else skip

/-- Reads a policy. -/
def read : Json.Reader NanPolicy := fun scope input => do
  let (given, rest) ← Json.readString scope input
  pure (ofName given, rest)

end NanPolicy

/-- How requests to a managed workspace are authorized. -/
structure AwsSettings where
  /-- The role to assume. -/
  roleArn : Option String := none
  /-- The external id given with the role. -/
  externalId : Option String := none
  accessKeyId : Option String := none
  secretAccessKey : Option String := none
  sessionToken : Option String := none
  /-- The region for which requests are signed. -/
  regionName : String := ""
  /-- The name of the session in which the role is assumed. -/
  roleSessionName : String := ""
  deriving DecidableEq, Repr

namespace AwsSettings

/-- The region of settings that name none. -/
def defaultRegion : String := "eu-west-1"

/-- The session name of settings that give none. -/
def defaultSessionName : String := "Prometheus-Mirror"

/-- Settings as JSON. -/
def toJson (aws : AwsSettings) : Json :=
  .object [
    ("role_arn", .ofText? aws.roleArn),
    ("external_id", .ofText? aws.externalId),
    ("aws_access_key_id", .ofText? aws.accessKeyId),
    ("aws_secret_access_key", .ofText? aws.secretAccessKey),
    ("aws_session_token", .ofText? aws.sessionToken),
    ("region_name", .string aws.regionName),
    ("role_session_name", .string aws.roleSessionName)]

/-- The fields of settings while they are read. -/
structure Draft where
  roleArn : Option (Option String) := none
  externalId : Option (Option String) := none
  accessKeyId : Option (Option String) := none
  secretAccessKey : Option (Option String) := none
  sessionToken : Option (Option String) := none
  regionName : Option String := none
  roleSessionName : Option String := none

/-- How settings are read. -/
def record : Json.Record Draft AwsSettings where
  name := "AwsAuthConfig"
  fields := [
    Json.field "role_arn" true Draft.roleArn (fun d v => { d with roleArn := some v })
      (Json.readOptional Json.readString),
    Json.field "external_id" true Draft.externalId (fun d v => { d with externalId := some v })
      (Json.readOptional Json.readString),
    Json.field "aws_access_key_id" true Draft.accessKeyId
      (fun d v => { d with accessKeyId := some v }) (Json.readOptional Json.readString),
    Json.field "aws_secret_access_key" true Draft.secretAccessKey
      (fun d v => { d with secretAccessKey := some v }) (Json.readOptional Json.readString),
    Json.field "aws_session_token" true Draft.sessionToken
      (fun d v => { d with sessionToken := some v }) (Json.readOptional Json.readString),
    Json.field "region_name" true Draft.regionName (fun d v => { d with regionName := some v })
      Json.readString,
    Json.field "role_session_name" true Draft.roleSessionName
      (fun d v => { d with roleSessionName := some v }) Json.readString]
  empty := {}
  build draft := .ok {
    roleArn := draft.roleArn.getD none
    externalId := draft.externalId.getD none
    accessKeyId := draft.accessKeyId.getD none
    secretAccessKey := draft.secretAccessKey.getD none
    sessionToken := draft.sessionToken.getD none
    regionName := draft.regionName.getD defaultRegion
    roleSessionName := draft.roleSessionName.getD defaultSessionName }

/-- Reads settings. -/
def read : Json.Reader AwsSettings := record.read

end AwsSettings

/-- Where a backend is and how it is to be called. -/
structure Connection where
  url : String
  /-- How many seconds a request may take. -/
  timeoutSeconds : Nat := 30
  nanPolicy : NanPolicy := .zero
  /-- How requests are signed, if they are. -/
  aws : Option AwsSettings := none
  deriving DecidableEq, Repr

namespace Connection

/-- A text without the slashes at its end. -/
def trimSlashes (text : String) : String :=
  String.ofList (text.toList.reverse.dropWhile (· = '/')).reverse

/-- The URL without slashes at its end. -/
def baseUrl (connection : Connection) : String := trimSlashes connection.url

/-- How many seconds a request may take if the connection does not say so. -/
def defaultTimeoutSeconds : Nat := 30

/-- A connection as JSON. -/
def toJson (connection : Connection) : Json :=
  .object [
    ("url", .string connection.url),
    ("request_timeout_seconds", .ofNat connection.timeoutSeconds),
    ("nan_interpretation", .string connection.nanPolicy.name),
    ("aws", match connection.aws with
      | some aws => aws.toJson
      | none => .null)]

/-- The fields of a connection while they are read. -/
structure Draft where
  url : Option String := none
  timeoutSeconds : Option Nat := none
  nanPolicy : Option NanPolicy := none
  aws : Option (Option AwsSettings) := none

/-- How a connection is read. -/
def record : Json.Record Draft Connection where
  name := "ConnectionDetails"
  fields := [
    Json.field "url" false Draft.url (fun d v => { d with url := some v }) Json.readString,
    Json.field "request_timeout_seconds" true Draft.timeoutSeconds
      (fun d v => { d with timeoutSeconds := some v }) (Json.readNat "u64"),
    Json.field "nan_interpretation" true Draft.nanPolicy
      (fun d v => { d with nanPolicy := some v }) NanPolicy.read,
    Json.field "aws" true Draft.aws (fun d v => { d with aws := some v })
      (Json.readOptional AwsSettings.read)]
  empty := {}
  build draft := do
    pure {
      url := ← Json.require "url" draft.url
      timeoutSeconds := draft.timeoutSeconds.getD defaultTimeoutSeconds
      nanPolicy := draft.nanPolicy.getD .zero
      aws := draft.aws.getD none }

/-- Reads a connection. -/
def read : Json.Reader Connection := record.read

end Connection

end MetricGateway
