import MetricGateway.Text.Encoding
import MetricGateway.Url.Host
import MetricGateway.Url.Path

/-!
# URLs

A URL is read as browsers read it: blanks around it and line breaks within it count for nothing,
scheme and host are brought to lower case, dots in the path are resolved, and what may not stand
for itself is percent encoded.
-/

namespace MetricGateway

/-- A URL. Its user, password, path, query and fragment are percent encoded. -/
structure Url where
  scheme : List Char
  user : List Char := []
  password : List Char := []
  /-- The host, unless the URL names none. -/
  host : Option Host := none
  /-- The port, unless it is the usual one of the scheme. -/
  port : Option Nat := none
  path : Path
  query : Option (List Char) := none
  fragment : Option (List Char) := none
  deriving DecidableEq, Repr

namespace Url

/-- The well-known schemes with the ports that are usual for them. -/
def usualPorts : List (List Char × Option Nat) :=
  [("http".toList, some 80), ("https".toList, some 443), ("ws".toList, some 80),
   ("wss".toList, some 443), ("ftp".toList, some 21), ("file".toList, none)]

/-- Whether a scheme is well known. -/
def isKnown (scheme : List Char) : Bool := usualPorts.any fun entry => entry.1 = scheme

/-- Whether a scheme is the one for files. -/
def isFile (scheme : List Char) : Bool := scheme = "file".toList

/-- The port that is usual for a scheme. -/
def usualPort (scheme : List Char) : Option Nat :=
  (usualPorts.find? fun entry => entry.1 = scheme).bind Prod.snd

/-- Whether a character counts for nothing at the ends of a URL. -/
def isOuter (c : Char) : Bool := c.toNat ≤ 0x20

/-- Whether a character counts for nothing anywhere in a URL. -/
def isDropped (c : Char) : Bool := c = '\t' || c = '\n' || c = '\r'

/-- The characters of a URL that count. -/
def clean (text : List Char) : List Char :=
  ((text.dropWhile isOuter).reverse.dropWhile isOuter).reverse.filter fun c => !isDropped c

/-- Whether a character may stand in the name of a scheme. -/
def isSchemeChar (c : Char) : Bool :=
  Text.isAlphanumeric c || c = '+' || c = '-' || c = '.'

/-- The scheme of a URL in lower case, and what follows its colon. -/
def splitScheme (text : List Char) : Option (List Char × List Char) :=
  let name := text.takeWhile isSchemeChar
  match text.head?, text.drop name.length with
  | some first, ':' :: rest =>
    if first.isAlpha then some (name.map Char.toLower, rest) else none
  | _, _ => none

/-- What stands before a character, and what stands behind it if it is there. -/
def splitAt (mark : Char) (text : List Char) : List Char × Option (List Char) :=
  match text.dropWhile (· ≠ mark) with
  | [] => (text, none)
  | _ :: rest => (text.takeWhile (· ≠ mark), some rest)

/-- Whether a character stands for itself in a user or a password. -/
def keepsInUser (c : Char) : Bool :=
  0x21 ≤ c.toNat && c.toNat ≠ 0x7F && !"\"#<>?\x60\x7b\x7d/:;=@[\\]^|".toList.contains c

/-- Whether a character stands for itself in a query. -/
def keepsInQuery (isKnown : Bool) (c : Char) : Bool :=
  0x21 ≤ c.toNat && c.toNat ≠ 0x7F && !"\"#<>".toList.contains c && !(isKnown && c = '\'')

/-- Whether a character stands for itself in a fragment. -/
def keepsInFragment (c : Char) : Bool :=
  0x21 ≤ c.toNat && c.toNat ≠ 0x7F && !"\"<>\x60".toList.contains c

/-- Whether a character stands for itself in a path that is not taken apart. -/
def keepsInPlain (c : Char) : Bool := 0x20 ≤ c.toNat && c.toNat ≠ 0x7F

/-- Whether a character separates the parts of a URL with a scheme of the given kind. -/
def isSlash (isKnown : Bool) (c : Char) : Bool := c = '/' || (isKnown && c = '\\')

/-- The user before the last at sign of an authority, and what follows it. -/
def splitUser (authority : List Char) : Option (List Char) × List Char :=
  let host := (authority.reverse.takeWhile (· ≠ '@')).reverse
  if host.length = authority.length then (none, host)
  else (some (authority.take (authority.length - host.length - 1)), host)

/-- The host of an authority, and what follows the colon behind it. A colon between brackets does
not count. -/
def splitPort : Bool → List Char → List Char × Option (List Char)
  | _, [] => ([], none)
  | inBrackets, c :: rest =>
    if c = ':' ∧ !inBrackets then ([], some rest)
    else
      let inBrackets := if c = '[' then true else if c = ']' then false else inBrackets
      let (host, port) := splitPort inBrackets rest
      (c :: host, port)

/-- The port that digits give, unless it is the usual one. -/
def readPort (scheme : List Char) (digits : List Char) : Except UrlError (Option Nat) :=
  if !digits.all Char.isDigit ∨ 65535 < Text.valueOf digits then .error .port
  else if digits = [] ∨ usualPort scheme = some (Text.valueOf digits) then .ok none
  else .ok (some (Text.valueOf digits))

/-- A user or a password as it is written. -/
def encodeUser (text : List Char) : List Char := Text.percentEncode keepsInUser text

/-- The host of a scheme. Only an unknown scheme may go with an empty one. -/
def readHost (scheme text : List Char) : Except UrlError Host :=
  if isKnown scheme then Host.read text else Host.readUnknown text

/-- The URL without path that an authority names. -/
def readAuthority (scheme authority : List Char) : Except UrlError Url := do
  let (userInfo, rest) := splitUser authority
  let (user, password) := splitAt ':' (userInfo.getD [])
  let (hostText, portText) := splitPort false rest
  let host ← readHost scheme hostText
  if hostText = [] && (userInfo.isSome || portText.isSome) then throw .emptyHost
  let port ← readPort scheme (portText.getD [])
  pure {
    scheme, host, port
    user := encodeUser user
    password := encodeUser (password.getD [])
    path := .segments [] }

/-- What follows two slashes at the beginning of a text. -/
def afterSlashes (separates : Char → Bool) : List Char → Option (List Char)
  | a :: b :: rest => if separates a && separates b then some rest else none
  | _ => none

/-- The path behind an authority. A known scheme always goes with a path. -/
def readPath (known : Bool) (text : List Char) : Path :=
  if text = [] && !known then .segments [] else Path.read (isSlash known) (text.drop 1)

/-- The URL of a known scheme. Any number of slashes may stand before the authority. -/
def readKnown (scheme text : List Char) : Except UrlError Url := do
  let text := text.dropWhile (isSlash true)
  let authority := text.takeWhile fun c => !isSlash true c
  let url ← readAuthority scheme authority
  pure { url with path := readPath true (text.drop authority.length) }

/-- The host of a file. The name of this host is the same as none. -/
def readFileHost (text : List Char) : Except UrlError Host := do
  if text = [] then pure (.domain [])
  else
    match ← Host.read text with
    | .domain name => pure (.domain (if name = "localhost".toList then [] else name))
    | host => pure host

/-- The URL of a file. -/
def readFile (scheme text : List Char) : Except UrlError Url := do
  match afterSlashes (isSlash true) text with
  | some text =>
    let authority := text.takeWhile fun c => !isSlash true c
    let host ← readFileHost authority
    pure { scheme, host, path := readPath true (text.drop authority.length) }
  | none =>
    let text := if text.head?.any (isSlash true) then text else '/' :: text
    pure { scheme, host := some (.domain []), path := readPath true text }

/-- The URL of a scheme that is not known. -/
def readUnknown (scheme text : List Char) : Except UrlError Url := do
  match afterSlashes (isSlash false) text with
  | some text =>
    let authority := text.takeWhile (· ≠ '/')
    let url ← readAuthority scheme authority
    pure { url with path := readPath false (text.drop authority.length) }
  | none =>
    if text.head? = some '/' then pure { scheme, path := readPath false text }
    else pure { scheme, path := .plain (Text.percentEncode keepsInPlain text) }

/-- Reads the characters of a URL that count. -/
def readClean (text : List Char) : Except UrlError Url := do
  match splitScheme text with
  | none => throw .noScheme
  | some (scheme, rest) =>
    let (rest, fragment) := splitAt '#' rest
    let (rest, query) := splitAt '?' rest
    let url ←
      if isFile scheme then readFile scheme rest
      else if isKnown scheme then readKnown scheme rest
      else readUnknown scheme rest
    pure { url with
      query := query.map (Text.percentEncode (keepsInQuery (isKnown scheme)))
      fragment := fragment.map (Text.percentEncode keepsInFragment) }

/-- Reads a URL. -/
def read (text : String) : Except UrlError Url := readClean (clean text.toList)

/-- A query with more of it behind what there is. -/
def extendQuery (query : Option (List Char)) (more : List Char) : List Char :=
  match query.getD [] with
  | [] => more
  | there => there ++ '&' :: more

/-- A URL with pairs added to its query. -/
def addPairs (url : Url) (pairs : List (String × String)) : Url :=
  if pairs = [] then url
  else { url with query := some (extendQuery url.query (Text.formOf pairs)) }

/-- The user and the password of a URL as they are written. -/
def renderUser (url : Url) : List Char :=
  if url.user = [] ∧ url.password = [] then []
  else url.user ++ (if url.password = [] then [] else ':' :: url.password) ++ ['@']

/-- The port of a URL as it is written. -/
def renderPort (url : Url) : List Char :=
  match url.port with
  | some port => ':' :: Text.digitsOf port
  | none => []

/-- The authority and the path of a URL as they are written. Without an authority, two slashes at
the beginning of the path are kept apart from the scheme. -/
def renderPlace (url : Url) : List Char :=
  match url.host with
  | some host => "//".toList ++ renderUser url ++ host.render ++ renderPort url ++ url.path.render
  | none =>
    let path := url.path.render
    if path.take 2 = ['/', '/'] then '/' :: '.' :: path else path

/-- A part of a URL behind its mark. -/
def renderPart (mark : Char) : Option (List Char) → List Char
  | some text => mark :: text
  | none => []

/-- A URL as it is written. -/
def render (url : Url) : String :=
  String.ofList (url.scheme ++ ':' :: renderPlace url ++ renderPart '?' url.query ++
    renderPart '#' url.fragment)

/-- A URL without its fragment. -/
def withoutFragment (url : Url) : Url := { url with fragment := none }

/-- The port that a URL leads to, if it is known. -/
def knownPort (url : Url) : Option Nat := url.port.or (usualPort url.scheme)

/-- A URL without its user and password. -/
def withoutUser (url : Url) : Url := { url with user := [], password := [] }

end Url

end MetricGateway
