import MetricGateway.Header
import MetricGateway.Json.Printer
import MetricGateway.Text.Utf8

/-!
# Messages of the server

What the server is asked over HTTP, and what it answers.
-/

namespace MetricGateway.Server

/-- A request to the server. -/
structure Request where
  method : String
  /-- The path with the query behind it. -/
  target : String
  /-- What kind of body the request has, if it says so. -/
  contentType : Option String
  body : Text.Bytes
  deriving DecidableEq, Repr

/-- The path of a request without its query. -/
def Request.path (request : Request) : String :=
  String.ofList (request.target.toList.takeWhile fun c => c ≠ '?' ∧ c ≠ '#')

/-- An answer of the server. -/
structure Answer where
  status : Nat
  headers : List Header := []
  body : String := ""
  deriving DecidableEq, Repr

namespace Answer

/-- An answer that holds JSON. -/
def json (status : Nat) (value : Json) : Answer where
  status := status
  headers := [⟨"content-type", "application/json"⟩]
  body := value.print

/-- The answer to a path that leads nowhere. -/
def notFound : Answer where
  status := 404

/-- The answer to a method that does not go with a path, given those that do. -/
def notAllowed (allowed : String) : Answer where
  status := 405
  headers := [⟨"allow", allowed⟩]

/-- An answer without its body. -/
def withoutBody (answer : Answer) : Answer := { answer with body := "" }

/-- An answer with a header in the place of those of the same name. -/
def withHeader (answer : Answer) (header : Header) : Answer :=
  { answer with
    headers := (answer.headers.filter fun there => there.name ≠ header.name) ++ [header] }

/-- The values of the headers of a name. -/
def values (answer : Answer) (name : String) : List String :=
  (answer.headers.filter fun header => header.name = name).map Header.value

end Answer

end MetricGateway.Server
