import MetricGateway.Header
import MetricGateway.Signing.Target
import MetricGateway.Signing.Sha256
import MetricGateway.Text.Encoding

/-!
# The canonical form of a request

Two requests that mean the same have one canonical form, and it is this form that is signed: the
path without empty and dot segments, the query with its pairs in order, and the signed headers.
-/

namespace MetricGateway.Signing

/-- The segments that are left of a path: empty segments and single dots count for nothing, and
two dots take the segment before them away. The last segment comes first. -/
def keptSegments (segments : List (List Char)) : List (List Char) :=
  segments.foldl
    (fun kept segment =>
      if segment = [] ∨ segment = ['.'] then kept
      else if segment = ['.', '.'] then kept.drop 1
      else segment :: kept)
    []

/-- The segments of a path. -/
def segmentsOf (path : List Char) : List (List Char) := path.splitOn '/'

/-- Whether the normal form of a path ends with a slash. -/
def endsWithSlash (path : List Char) : Bool :=
  ["/", "/.", "/./", "/..", "/../"].any fun ending => ending.toList.isSuffixOf path

/-- A path without empty and dot segments. -/
def normalPath (path : List Char) : List Char :=
  if path = [] then ['/']
  else
    let path := if path.head? = some '/' then path else '/' :: path
    let kept := (keptSegments (segmentsOf path)).reverse
    '/' :: (['/'].intercalate kept ++ if kept ≠ [] && endsWithSlash path then ['/'] else [])

/-- A path as it is signed. Percent signs are encoded once more. -/
def canonicalPath (path : List Char) : List Char :=
  Text.percentEncode (fun c => Text.isUnreserved c || c = '/') (normalPath path)

/-- A name or a value of a query as it is signed. -/
def canonicalText (text : String) : String :=
  String.ofList (Text.percentEncode Text.isUnreserved text.toList)

/-- Whether a pair comes before another one or is equal to it. -/
def pairLe (a b : String × String) : Bool := a.1 < b.1 || (a.1 = b.1 && a.2 ≤ b.2)

/-- A query as it is signed: its pairs in the order of their encoded texts. -/
def canonicalQuery (query : List Char) : String :=
  let pairs := (Text.formPairs query).map fun (name, value) =>
    (canonicalText name, canonicalText value)
  "&".intercalate ((pairs.mergeSort pairLe).map fun (name, value) => name ++ "=" ++ value)

/-- The names of headers as they are listed in a signature. -/
def headerNames (headers : List Header) : String := ";".intercalate (headers.map Header.name)

/-- Headers as they are signed. -/
def headerLines (headers : List Header) : String :=
  String.join (headers.map fun header => header.name ++ ":" ++ header.value ++ "\n")

/-- The canonical form of a request without a body. The headers are in the order of their
names. -/
def canonicalRequest (method : String) (target : Target) (headers : List Header) : String :=
  "\n".intercalate [method, String.ofList (canonicalPath target.path),
    canonicalQuery target.query, headerLines headers, headerNames headers,
    Text.hexOf (Sha256.digest [])]

end MetricGateway.Signing
