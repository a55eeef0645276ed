import MetricGateway.Json.Record
import MetricGateway.Header
import MetricGateway.Server.Message

/-!
# Bodies of requests

A body is accepted if it says that it is JSON, is not too long, and begins with a value of the
wanted shape. What follows that value counts for nothing.
-/

namespace MetricGateway.Server

/-- Why a body is not accepted. -/
inductive Rejection where
  /-- It does not say that it is JSON. -/
  | notJson
  | tooLong
  /-- It is no JSON, or not of the wanted shape. -/
  | unreadable (fault : Json.Fault)
  deriving DecidableEq, Repr

/-- The wording of a rejection. -/
def Rejection.message : Rejection → String
  | notJson => "Expected request with `Content-Type: application/json`"
  | tooLong => "Failed to buffer the request body: length limit exceeded"
  | unreadable fault =>
    if fault.cause.isOfShape then
      "Failed to deserialize the JSON body into the target type: " ++ fault.message
    else "Failed to parse the request body as JSON: " ++ fault.message

/-- The most bytes that a body may have. -/
def maxBodyBytes : Nat := 2097152

/-- Whether a request says that its body is JSON. -/
def saysJson (request : Request) : Bool :=
  match request.contentType.bind MediaType.read with
  | some mediaType => mediaType.isJson
  | none => false

/-- The first character from a code on that does not occur, given at most how many may occur. -/
def unusedFrom (used : List (Option Char)) : Nat → Nat → Char
  | 0, code => Char.ofNat code
  | count + 1, code =>
    if used.contains (some (Char.ofNat code)) then unusedFrom used count (code + 1)
    else Char.ofNat code

/-- The first of the characters without a meaning that does not occur. -/
def unused (used : List (Option Char)) : Char := unusedFrom used used.length 0xF0000

/-- The characters of a body, and the one among them that stands for malformed bytes, if there are
any. -/
def bodyText (bytes : Text.Bytes) : List Char × Option Char :=
  let characters := Text.characters bytes
  if characters.contains none then
    let mark := unused characters
    (characters.map (·.getD mark), some mark)
  else (characters.map (·.getD Text.replacement), none)

/-- Reads the body of a request. -/
def readBody {α : Type} (read : Json.Reader α) (request : Request) : Except Rejection α :=
  if !saysJson request then .error .notJson
  else if maxBodyBytes < request.body.length then .error .tooLong
  else
    let (text, mark) := bodyText request.body
    match read (Json.documentScope mark) text with
    | .ok (value, _) => .ok value
    | .error fault => .error (.unreadable fault)

end MetricGateway.Server
