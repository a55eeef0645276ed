import MetricGateway.Text.Utf8
import MetricGateway.Text.Basic

/-!
# Character sets

The bytes of a text are read in the character set that goes with them. A byte order mark at the
beginning of the bytes says better than a name which one that is, and is left out of the text.
-/

namespace MetricGateway.Text

/-- How characters are written as bytes. -/
inductive Charset where
  | utf8
  | utf16LittleEndian
  | utf16BigEndian
  /-- One byte each, for the languages of western Europe. -/
  | western
  deriving DecidableEq, Repr

namespace Charset

/-- The names of character sets. -/
def names : List (Charset × List String) :=
  [(utf8, ["unicode-1-1-utf-8", "unicode11utf8", "unicode20utf8", "utf-8", "utf8",
      "x-unicode20utf8"]),
   (utf16LittleEndian, ["csunicode", "iso-10646-ucs-2", "ucs-2", "unicode", "unicodefeff",
      "utf-16", "utf-16le"]),
   (utf16BigEndian, ["unicodefffe", "utf-16be"]),
   (western, ["ansi_x3.4-1968", "ascii", "cp1252", "cp819", "csisolatin1", "ibm819", "iso-8859-1",
      "iso-ir-100", "iso8859-1", "iso88591", "iso_8859-1", "iso_8859-1:1987", "l1", "latin1",
      "us-ascii", "windows-1252", "x-cp1252"])]

/-- Whether a character may stand around the name of a character set. -/
def isOuter (c : Char) : Bool := c = ' ' || c = '\t' || c = '\n' || c = '\x0c' || c = '\r'

/-- The character set of a name. -/
def ofName (name : String) : Option Charset :=
  let bare := ((name.toList.dropWhile isOuter).reverse.dropWhile isOuter).reverse
  (names.find? fun entry => entry.2.contains (lowerCase (String.ofList bare))).map Prod.fst

/-- The characters of the bytes from 0x80 to 0x9F in the western character set. -/
def westernCodes : List Nat :=
  [0x20AC, 0x81, 0x201A, 0x192, 0x201E, 0x2026, 0x2020, 0x2021,
   0x2C6, 0x2030, 0x160, 0x2039, 0x152, 0x8D, 0x17D, 0x8F,
   0x90, 0x2018, 0x2019, 0x201C, 0x201D, 0x2022, 0x2013, 0x2014,
   0x2DC, 0x2122, 0x161, 0x203A, 0x153, 0x9D, 0x17E, 0x178]

/-- The character of a byte in the western character set. -/
def westernChar (b : UInt8) : Char :=
  let n := b.toNat
  Char.ofNat (if 0x80 ≤ n ∧ n ≤ 0x9F then westernCodes.getD (n - 0x80) n else n)

/-- Two-byte units of bytes, with nothing in the place of a single byte at the end. -/
def units (join : Nat → Nat → Nat) : Bytes → List (Option Nat)
  | [] => []
  | [_] => [none]
  | a :: b :: rest => some (join a.toNat b.toNat) :: units join rest

/-- Whether a unit is the first half of a pair. -/
def isFirstHalf (unit : Nat) : Bool := 0xD800 ≤ unit && unit ≤ 0xDBFF

/-- Whether a unit is the second half of a pair. -/
def isSecondHalf (unit : Nat) : Bool := 0xDC00 ≤ unit && unit ≤ 0xDFFF

/-- The character of a unit that is no half of a pair. -/
def unitChar (unit : Nat) : Char :=
  if isFirstHalf unit || isSecondHalf unit then replacement else Char.ofNat unit

/-- The characters of units, given the first half of a pair that has begun. -/
def unitChars : Option Nat → List (Option Nat) → List Char
  | none, [] => []
  | some _, [] => [replacement]
  | none, none :: rest => replacement :: unitChars none rest
  | some _, none :: rest => replacement :: unitChars none rest
  | none, some unit :: rest =>
    if isFirstHalf unit then unitChars (some unit) rest
    else unitChar unit :: unitChars none rest
  | some first, some unit :: rest =>
    if isSecondHalf unit then
      Char.ofNat (0x10000 + (first - 0xD800) * 0x400 + (unit - 0xDC00)) :: unitChars none rest
    else if isFirstHalf unit then replacement :: unitChars (some unit) rest
    else replacement :: unitChar unit :: unitChars none rest

/-- The text of bytes in a character set. -/
def decodeAs (charset : Charset) (bytes : Bytes) : String :=
  match charset with
  | utf8 => ofUtf8Lossy bytes
  | utf16LittleEndian =>
    String.ofList (unitChars none (units (fun low high => high * 256 + low) bytes))
  | utf16BigEndian =>
    String.ofList (unitChars none (units (fun high low => high * 256 + low) bytes))
  | western => String.ofList (bytes.map westernChar)

/-- The text of bytes in the character set that their byte order mark names, or else in the given
one. -/
def decode (charset : Charset) (bytes : Bytes) : String :=
  match bytes with
  | 0xEF :: 0xBB :: 0xBF :: rest => decodeAs utf8 rest
  | 0xFE :: 0xFF :: rest => decodeAs utf16BigEndian rest
  | 0xFF :: 0xFE :: rest => decodeAs utf16LittleEndian rest
  | bytes => decodeAs charset bytes

end Charset

end MetricGateway.Text
