import MetricGateway.Text.Encoding

/-!
# Targets of requests

The URL of a request is taken apart into scheme, authority, path and query before it is signed. A
URL without a scheme can only be an authority.
-/

namespace MetricGateway.Signing

/-- The schemes that signing tells apart. -/
inductive Scheme where
  | http
  | https
  | other
  deriving DecidableEq, Repr

/-- What a request is sent to. -/
structure Target where
  /-- The scheme, unless the URL is an authority only. -/
  scheme : Option Scheme
  authority : List Char
  path : List Char
  /-- The query without its question mark. -/
  query : List Char
  deriving DecidableEq, Repr

namespace Target

/-- The most bytes that a URL may have. -/
def maxBytes : Nat := 65534

/-- The most characters that the name of a scheme may have. -/
def maxSchemeSize : Nat := 64

/-- The most colons in a row of an authority. -/
def maxColons : Nat := 8

/-- Whether a character may stand in the name of a scheme. -/
def isSchemeChar (c : Char) : Bool := Text.isAlphanumeric c || "+-.~".toList.contains c

/-- The text behind a beginning that is found in any letter case. -/
def dropStart? (start text : List Char) : Option (List Char) :=
  if (text.take start.length).map Char.toLower = start then some (text.drop start.length)
  else none

/-- What behind the name of a scheme shows that it is one. -/
def schemeMark : List Char := "://".toList

/-- The scheme of a URL, if it has one, and what follows it. -/
def splitScheme (url : List Char) : Option (Option Scheme × List Char) :=
  match dropStart? "http://".toList url, dropStart? "https://".toList url with
  | some rest, _ => some (some .http, rest)
  | none, some rest => some (some .https, rest)
  | none, none =>
    let name := url.takeWhile isSchemeChar
    match dropStart? schemeMark (url.drop name.length) with
    | some rest =>
      if url.length ≤ schemeMark.length then some (none, url)
      else if name.length ≤ maxSchemeSize then some (some .other, rest)
      else none
    | none => some (none, url)

/-- Whether a character may stand in an authority. -/
def isAuthorityChar (c : Char) : Bool :=
  Text.isAlphanumeric c || "!$&'()*+,-.:;=@[]_~%".toList.contains c

/-- Whether a character ends an authority. -/
def endsAuthority (c : Char) : Bool := c = '/' || c = '?' || c = '#'

/-- What has been seen of an authority. -/
structure Seen where
  /-- The colons that may stand before a port. -/
  colons : Nat := 0
  /-- Whether a bracket has been opened. -/
  opened : Bool := false
  /-- Whether the bracket has been closed. -/
  closed : Bool := false
  /-- Whether a percent sign stands in what may be the host. -/
  percent : Bool := false
  /-- Whether nothing stands behind the last at sign. -/
  atSign : Bool := false

/-- What has been seen after one more character. Colons and percent signs of a user or inside
brackets are forgotten. -/
def Seen.next (seen : Seen) (c : Char) : Option Seen :=
  let seen := { seen with atSign := c = '@' }
  if !isAuthorityChar c then none
  else if c = ':' then
    if maxColons ≤ seen.colons then none else some { seen with colons := seen.colons + 1 }
  else if c = '[' then
    if seen.percent || seen.opened then none else some { seen with opened := true }
  else if c = ']' then
    if !seen.opened || seen.closed then none
    else some { seen with closed := true, colons := 0, percent := false }
  else if c = '@' then some { seen with colons := 0, percent := false }
  else if c = '%' then some { seen with percent := true }
  else some seen

/-- Whether a text is an authority. -/
def isAuthority (text : List Char) : Bool :=
  match text.foldlM Seen.next ({} : Seen) with
  | some seen => seen.opened = seen.closed && seen.colons ≤ 1 && !seen.atSign && !seen.percent
  | none => false

/-- Whether a character may stand in a path. -/
def isPathChar (c : Char) : Bool :=
  let n := c.toNat
  n = 0x21 || n = 0x22 || (0x24 ≤ n && n ≤ 0x3B) || n = 0x3D || (0x40 ≤ n && n ≤ 0x5F) ||
    0x61 ≤ n

/-- Whether a character may stand in a query. -/
def isQueryChar (c : Char) : Bool :=
  let n := c.toNat
  n = 0x21 || (0x24 ≤ n && n ≤ 0x3B) || n = 0x3D || 0x3F ≤ n

/-- The path and the query at the end of a URL. -/
def splitPath (text : List Char) : Option (List Char × List Char) :=
  let shown := text.takeWhile (· ≠ '#')
  let path := shown.takeWhile (· ≠ '?')
  let query := (shown.dropWhile (· ≠ '?')).drop 1
  if path.all isPathChar && query.all isQueryChar then
    some (if path = [] then ['/'] else path, query)
  else none

/-- The target that a URL names. -/
def ofUrl (url : String) : Option Target :=
  if maxBytes < url.utf8ByteSize then none
  else do
    let (scheme, rest) ← splitScheme url.toList
    let authority := rest.takeWhile fun c => !endsAuthority c
    let rest := rest.drop authority.length
    if authority = [] || !isAuthority authority then none
    else if scheme.isNone then
      if rest = [] then some { scheme, authority, path := [], query := [] } else none
    else
      let (path, query) ← splitPath rest
      some { scheme, authority, path, query }

/-- The authority without its user. -/
def hostAndPort (target : Target) : List Char :=
  (target.authority.reverse.takeWhile (· ≠ '@')).reverse

/-- The host of a target. -/
def host (target : Target) : List Char :=
  let text := target.hostAndPort
  if text.head? = some '[' then text.takeWhile (· ≠ ']') ++ [']']
  else text.takeWhile (· ≠ ':')

/-- Whether the authority ends with the port that its scheme has anyway. -/
def hasUsualPort (target : Target) : Bool :=
  match target.scheme with
  | some .http => ":80".toList.isSuffixOf target.authority
  | some .https => ":443".toList.isSuffixOf target.authority
  | _ => false

/-- The host as it is named in a request. The usual port goes unsaid. -/
def hostHeader (target : Target) : List Char :=
  if target.hasUsualPort then target.host else target.authority

end Target

end MetricGateway.Signing
