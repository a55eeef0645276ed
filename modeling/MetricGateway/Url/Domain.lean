import MetricGateway.Text.Encoding
import MetricGateway.Url.Punycode

/-!
# Domains

The domain of a URL is brought to one form: in lower case, without characters that cannot be seen,
and with each label in basic characters.
-/

namespace MetricGateway.Domain

/-- Whether a character is left out of a domain. -/
def isIgnored (c : Char) : Bool :=
  let n := c.toNat
  n = 0xAD || n = 0x200B || n = 0x2060 || n = 0xFEFF || (0xFE00 ≤ n && n ≤ 0xFE0F)

/-- Whether a character with this code is a capital letter whose small letter follows it. -/
def isPairedCapital (n : Nat) : Bool :=
  (n % 2 = 0 && ((0x100 ≤ n && n ≤ 0x12E) || (0x14A ≤ n && n ≤ 0x176) ||
    (0x460 ≤ n && n ≤ 0x480) || (0x48A ≤ n && n ≤ 0x4BE) || (0x4D0 ≤ n && n ≤ 0x52E))) ||
  (n % 2 = 1 && ((0x139 ≤ n && n ≤ 0x147) || (0x179 ≤ n && n ≤ 0x17D)))

/-- The code of the small letter of a capital letter, or the code itself. -/
def smallLetter (n : Nat) : Nat :=
  if 0x41 ≤ n ∧ n ≤ 0x5A then n + 32
  else if 0xC0 ≤ n ∧ n ≤ 0xDE ∧ n ≠ 0xD7 then n + 32
  else if isPairedCapital n then n + 1
  else if n = 0x178 then 0xFF
  else if 0x391 ≤ n ∧ n ≤ 0x3A9 then n + 32
  else if 0x410 ≤ n ∧ n ≤ 0x42F then n + 32
  else if 0x400 ≤ n ∧ n ≤ 0x40F then n + 80
  else n

/-- The code of the basic character that a wide one stands for, or the code itself. -/
def narrow (n : Nat) : Nat :=
  if 0xFF01 ≤ n ∧ n ≤ 0xFF5E then n - 0xFEE0
  else if n = 0x3002 ∨ n = 0xFF61 then 0x2E
  else if n = 0xA0 ∨ n = 0x3000 then 0x20
  else n

/-- A character as it stands in the one form of a domain. -/
def fold (c : Char) : List Char :=
  if isIgnored c then [] else [Char.ofNat (smallLetter (narrow c.toNat))]

/-- Whether a character may not stand in a domain. -/
def isForbidden (c : Char) : Bool :=
  let n := c.toNat
  n ≤ 0x20 || (0x7F ≤ n && n ≤ 0x9F) || (0xE000 ≤ n && n ≤ 0xF8FF) || n = 0xFFFD ||
    "#%/:<>?@[\\]^|".toList.contains c

/-- What a label in basic characters begins with if it stands for other ones. -/
def codeMark : List Char := "xn--".toList

/-- A label in basic characters. -/
def labelToBasic (label : List Char) : Option (List Char) :=
  if codeMark.isPrefixOf label then do
    let decoded ← Punycode.decode (label.drop codeMark.length)
    if decoded.all Punycode.isBasic || decoded.flatMap fold ≠ decoded ||
        decoded.any isForbidden then none
    else some label
  else if label.all Punycode.isBasic then some label
  else some (codeMark ++ Punycode.encode label)

/-- The text of bytes, unless they hold a malformed sequence. -/
def textOf (bytes : Text.Bytes) : Option (List Char) := (Text.characters bytes).mapM id

/-- The one form of a domain, which may be percent encoded. -/
def ofEncoded (text : List Char) : Option (List Char) := do
  let folded := (← textOf (Text.percentDecode text)).flatMap fold
  if folded.any isForbidden then none
  else
    let labels ← (folded.splitOn '.').mapM labelToBasic
    some (['.'].intercalate labels)

end MetricGateway.Domain
