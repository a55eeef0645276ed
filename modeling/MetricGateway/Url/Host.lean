import MetricGateway.Error
import MetricGateway.Url.Domain
import MetricGateway.Url.Ipv4
import MetricGateway.Url.Ipv6

/-!
# Hosts

The host of a URL is a domain or an address.
-/

namespace MetricGateway

/-- Where a URL points. -/
inductive Host where
  | domain (name : List Char)
  | ipv4 (address : Nat)
  | ipv6 (pieces : List Nat)
  deriving DecidableEq, Repr

namespace Host

/-- The address between a pair of brackets. -/
def readBracketed (text : List Char) : Except UrlError Host :=
  if text.getLast? = some ']' then
    match Ipv6.read (text.drop 1).dropLast with
    | some pieces => .ok (ipv6 pieces)
    | none => .error .ipv6
  else .error .ipv6

/-- The host of a URL whose scheme is well known. -/
def read (text : List Char) : Except UrlError Host :=
  if text = [] then .error .emptyHost
  else if text.head? = some '[' then readBracketed text
  else
    match Domain.ofEncoded text with
    | none => .error .domain
    | some [] => .error .emptyHost
    | some name =>
      if Ipv4.endsInNumber name then
        match Ipv4.read name with
        | some address => .ok (ipv4 address)
        | none => .error .ipv4
      else .ok (domain name)

/-- Whether a character may not stand in the host of a URL whose scheme is not known. -/
def isForbiddenUnknown (c : Char) : Bool :=
  c.toNat = 0 || c = ' ' || "#/:<>?@[\\]^|".toList.contains c

/-- The host of a URL whose scheme is not known. It may be empty. -/
def readUnknown (text : List Char) : Except UrlError Host :=
  if text.head? = some '[' then readBracketed text
  else if text.any isForbiddenUnknown then .error .domainChar
  else .ok (domain (Text.percentEncode (fun c => 0x20 ≤ c.toNat && c.toNat ≠ 0x7F) text))

/-- A host as it is written in a URL. -/
def render : Host → List Char
  | domain name => name
  | ipv4 address => Ipv4.render address
  | ipv6 pieces => '[' :: Ipv6.render pieces ++ [']']

end Host

end MetricGateway
