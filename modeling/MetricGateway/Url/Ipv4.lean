import MetricGateway.Text.Basic

/-!
# Addresses of four bytes

An address is written as up to four numbers with dots between them. Each number may be decimal,
octal or hexadecimal; the last one fills all bytes that are left.
-/

namespace MetricGateway.Ipv4

/-- The value of digits of a base. -/
def valueIn (base : Nat) (digits : List Char) : Option Nat :=
  digits.foldlM
    (fun n c => do
      let d ← Text.hexDigitValue? c
      if d < base then some (n * base + d) else none)
    0

/-- A number of an address. A bare sign of the base counts as zero. -/
def readNumber : List Char → Option Nat
  | [] => none
  | '0' :: 'x' :: digits => valueIn 16 digits
  | '0' :: 'X' :: digits => valueIn 16 digits
  | '0' :: c :: digits => valueIn 8 (c :: digits)
  | digits => valueIn 10 digits

/-- The parts of a host. A dot at its end counts for nothing. -/
def partsOf (host : List Char) : List (List Char) :=
  let parts := host.splitOn '.'
  if parts.getLast? = some [] then parts.dropLast else parts

/-- Whether the last part of a host is a number, so that the host can only be an address. -/
def endsInNumber (host : List Char) : Bool :=
  match (partsOf host).getLast? with
  | some last => (last ≠ [] && last.all Char.isDigit) || (readNumber last).isSome
  | none => false

/-- The address of numbers. -/
def ofNumbers (numbers : List Nat) : Option Nat :=
  match numbers.reverse with
  | [] => none
  | last :: before =>
    if 3 < before.length ∨ before.any (255 < ·) ∨ Nat.pow 256 (4 - before.length) ≤ last then none
    else some (before.reverse.foldl (· * 256 + ·) 0 * Nat.pow 256 (4 - before.length) + last)

/-- The address that a host is. -/
def read (host : List Char) : Option Nat := (partsOf host).mapM readNumber >>= ofNumbers

/-- An address as four decimal numbers. -/
def render (address : Nat) : List Char :=
  ['.'].intercalate ([3, 2, 1, 0].map fun i => Text.digitsOf (address / Nat.pow 256 i % 256))

end MetricGateway.Ipv4
