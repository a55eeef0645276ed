import MetricGateway.Text.Basic
import MetricGateway.Text.Utf8

/-!
# Encodings

Bytes that may not stand for themselves in a URL are written as a percent sign and two hexadecimal
digits. The pairs of a form are joined by ampersands, with a plus sign for a space. In base 64,
three bytes are written as four characters, and a group that is not full is filled up with equals
signs.
-/

namespace MetricGateway.Text

/-! ## Percent encoding -/

/-- Two hexadecimal digits in lower case for each byte. -/
def hexOf (bytes : Bytes) : String :=
  String.ofList (bytes.flatMap fun b =>
    [lowerHexDigit (b.toNat / 16), lowerHexDigit (b.toNat % 16)])

/-- A byte as a percent sign and two digits. -/
def percentByte (b : UInt8) : List Char :=
  ['%', upperHexDigit (b.toNat / 16), upperHexDigit (b.toNat % 16)]

/-- The bytes of a character as they stand in a URL part in which `keeps` says what may stand for
itself. Only characters of a single byte ever do. -/
def percentChar (keeps : Char → Bool) (c : Char) : List Char :=
  if c.toNat < 0x80 ∧ keeps c then [c] else (String.utf8EncodeChar c).flatMap percentByte

/-- A text as a URL part. -/
def percentEncode (keeps : Char → Bool) (text : List Char) : List Char :=
  text.flatMap (percentChar keeps)

/-- The bytes of a URL part. A percent sign without two digits behind it stands for itself. -/
def percentDecode : List Char → Bytes
  | [] => []
  | '%' :: a :: b :: rest =>
    match hexDigitValue? a, hexDigitValue? b with
    | some high, some low => UInt8.ofNat (high * 16 + low) :: percentDecode rest
    | _, _ => 0x25 :: percentDecode (a :: b :: rest)
  | c :: rest => String.utf8EncodeChar c ++ percentDecode rest

/-- Whether a character is a letter or digit of the basic alphabet. -/
def isAlphanumeric (c : Char) : Bool := c.isAlpha || c.isDigit

/-- Whether a character has no meaning of its own in any part of a URL. -/
def isUnreserved (c : Char) : Bool :=
  isAlphanumeric c || c = '-' || c = '.' || c = '_' || c = '~'

/-! ## Forms -/

/-- Whether a character stands for itself in a form. -/
def keepsInForm (c : Char) : Bool :=
  isAlphanumeric c || c = '*' || c = '-' || c = '.' || c = '_'

/-- A name or a value of a form. -/
def formEncode (text : String) : List Char :=
  text.toList.flatMap fun c => if c = ' ' then ['+'] else percentChar keepsInForm c

/-- A pair of a form. -/
def formPair (pair : String × String) : List Char :=
  formEncode pair.1 ++ '=' :: formEncode pair.2

/-- Pairs as a form. -/
def formOf (pairs : List (String × String)) : List Char :=
  ['&'].intercalate (pairs.map formPair)

/-- The text of a name or a value of a form. -/
def formDecode (encoded : List Char) : String :=
  ofUtf8Lossy (percentDecode (encoded.map fun c => if c = '+' then ' ' else c))

/-- The name and the value of a piece of a form. Without an equals sign the value is empty. -/
def splitPair (piece : List Char) : String × String :=
  (formDecode (piece.takeWhile (· ≠ '=')), formDecode ((piece.dropWhile (· ≠ '=')).drop 1))

/-- The pairs of a form. Empty pieces count for nothing. -/
def formPairs (form : List Char) : List (String × String) :=
  ((form.splitOn '&').filter (· ≠ [])).map splitPair

/-! ## Base 64 -/

/-- The character for six bits. -/
def base64Char (n : Nat) : Char :=
  Char.ofNat (if n < 26 then 65 + n else if n < 52 then 71 + n else if n < 62 then n - 4
    else if n = 62 then 43 else 47)

/-- Bytes in base 64. -/
def base64 : Bytes → List Char
  | [] => []
  | [a] => [base64Char (a.toNat / 4), base64Char (a.toNat % 4 * 16), '=', '=']
  | [a, b] =>
    [base64Char (a.toNat / 4), base64Char (a.toNat % 4 * 16 + b.toNat / 16),
      base64Char (b.toNat % 16 * 4), '=']
  | a :: b :: c :: rest =>
    base64Char (a.toNat / 4) :: base64Char (a.toNat % 4 * 16 + b.toNat / 16) ::
      base64Char (b.toNat % 16 * 4 + c.toNat / 64) :: base64Char (c.toNat % 64) :: base64 rest

end MetricGateway.Text
