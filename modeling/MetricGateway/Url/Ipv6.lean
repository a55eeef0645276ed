import MetricGateway.Text.Basic

/-!
# Addresses of sixteen bytes

An address is written as eight pieces of two bytes with colons between them. One gap of two colons
stands for as many pieces of zero as are missing, and the last two pieces may be written as four
decimal bytes.
-/

namespace MetricGateway.Ipv6

/-- How many pieces an address has. -/
def size : Nat := 8

/-- A byte of the four at the end, without zeros before it. -/
def readByte (digits : List Char) : Option Nat :=
  if digits = [] ∨ !digits.all Char.isDigit ∨ (digits.head? = some '0' ∧ digits.length ≠ 1) then
    none
  else if Text.valueOf digits < 256 then some (Text.valueOf digits)
  else none

/-- The two pieces that four decimal bytes make. -/
def readBytes (text : List Char) : Option (List Nat) := do
  match ← (text.splitOn '.').mapM readByte with
  | [a, b, c, d] => some [a * 256 + b, c * 256 + d]
  | _ => none

/-- A piece of up to four hexadecimal digits. -/
def readPiece (digits : List Char) : Option Nat :=
  if digits = [] ∨ 4 < digits.length then none
  else digits.foldlM (fun n c => (Text.hexDigitValue? c).map (n * 16 + ·)) 0

/-- The pieces of texts. Only the last text may hold decimal bytes. -/
def readPieces : List (List Char) → Option (List Nat)
  | [] => some []
  | [last] => if last.contains '.' then readBytes last else (readPiece last).map ([·])
  | text :: rest => do
    let piece ← readPiece text
    let pieces ← readPieces rest
    some (piece :: pieces)

/-- The pieces on one side of a gap. -/
def readSide (text : List Char) : Option (List Nat) :=
  if text = [] then some [] else readPieces (text.splitOn ':')

/-- What stands before and behind the first gap of a text. -/
def splitGap : List Char → Option (List Char × List Char)
  | ':' :: ':' :: rest => some ([], rest)
  | c :: rest => (splitGap rest).map fun (before, behind) => (c :: before, behind)
  | [] => none

/-- The pieces of an address. -/
def read (text : List Char) : Option (List Nat) :=
  match splitGap text with
  | some (before, behind) => do
    if before.contains '.' then none
    let first ← readSide before
    let last ← readSide behind
    if first.length + last.length < size then
      some (first ++ List.replicate (size - first.length - last.length) 0 ++ last)
    else none
  | none => do
    let pieces ← readPieces (text.splitOn ':')
    if pieces.length = size then some pieces else none

/-- How many pieces of zero a list begins with. -/
def zeros (pieces : List Nat) : Nat := (pieces.takeWhile (· = 0)).length

/-- Where the first of the longest runs of zeros starts, and how long it is. -/
def longestRun : List Nat → Nat × Nat
  | [] => (0, 0)
  | piece :: rest =>
    let here := zeros (piece :: rest)
    let later := longestRun rest
    if later.2 ≤ here then (0, here) else (later.1 + 1, later.2)

/-- Pieces with colons between them. -/
def renderPieces (pieces : List Nat) : List Char :=
  [':'].intercalate (pieces.map (Nat.toDigits 16))

/-- An address as it is written. The longest run of at least two zeros is left out. -/
def render (pieces : List Nat) : List Char :=
  let (start, length) := longestRun pieces
  if length < 2 then renderPieces pieces
  else
    renderPieces (pieces.take start) ++ ':' :: ':' :: renderPieces (pieces.drop (start + length))

end MetricGateway.Ipv6
