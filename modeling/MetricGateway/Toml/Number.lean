import MetricGateway.Decimal.Reading

/-!
# Numbers of a configuration file

Integers are decimal, hexadecimal, octal or binary; floats have a fraction or an exponent. A single
underscore may stand between any two digits.
-/

namespace MetricGateway.Toml

/-- Digits without the underscores between them. -/
def ungroup (isDigit : Char → Bool) : List Char → Option (List Char)
  | [] => none
  | [c] => if isDigit c then some [c] else none
  | c :: '_' :: rest => if isDigit c then (ungroup isDigit rest).map (c :: ·) else none
  | c :: rest => if isDigit c then (ungroup isDigit rest).map (c :: ·) else none

/-- Whether a character is a digit of a base. -/
def isDigitOf (base : Nat) (c : Char) : Bool := (Text.hexDigitValue? c).any (· < base)

/-- The number that digits of a base give. -/
def readNat (base : Nat) (text : List Char) : Option Nat :=
  (ungroup (isDigitOf base) text).map fun digits =>
    digits.foldl (fun n c => n * base + (Text.hexDigitValue? c).getD 0) 0

/-- The digits of a decimal number, which do not start with a needless zero. -/
def readWhole (text : List Char) : Option (List Char) :=
  (ungroup Char.isDigit text).filter fun digits => digits.length = 1 || digits.head? ≠ some '0'

/-- The integer that a text gives. It has to fit into 64 bits. -/
def readInteger (text : List Char) : Option Int :=
  let value : Option Int :=
    match text with
    | '0' :: 'x' :: digits => (readNat 16 digits).map Int.ofNat
    | '0' :: 'o' :: digits => (readNat 8 digits).map Int.ofNat
    | '0' :: 'b' :: digits => (readNat 2 digits).map Int.ofNat
    | text =>
      let (negative, unsigned) := Decimal.splitSign text
      (readWhole unsigned).map fun digits =>
        if negative then -(Text.valueOf digits : Int) else Text.valueOf digits
  value.filter fun n => -0x8000000000000000 ≤ n && n < 0x8000000000000000

/-- The exponent that a text gives. -/
def readPower (text : List Char) : Option Int :=
  let (negative, unsigned) := Decimal.splitSign text
  (ungroup Char.isDigit unsigned).map fun digits =>
    if negative then -(Text.valueOf digits : Int) else Text.valueOf digits

/-- The float of digits before and behind its point and of an exponent. What is too large is no
float. -/
def floatOf (negative : Bool) (whole fraction : List Char) (power : Int) : Option Binary64 :=
  let x := Binary64.ofDecimal negative (Text.valueOf (whole ++ fraction)) (power - fraction.length)
  if x.magnitude = Binary64.infinityBits then none else some x

/-- Whether a character opens an exponent. -/
def opensPower (c : Char) : Bool := c = 'e' || c = 'E'

/-- The float that a text without sign gives. -/
def readUnsignedFloat (negative : Bool) (text : List Char) : Option Binary64 :=
  let mantissa := text.takeWhile fun c => !opensPower c
  let whole := mantissa.takeWhile (· ≠ '.')
  match mantissa.drop whole.length, text.drop mantissa.length with
  | [], [] => none
  | [], _ :: power => do floatOf negative (← readWhole whole) [] (← readPower power)
  | _ :: fraction, [] => do
    floatOf negative (← readWhole whole) (← ungroup Char.isDigit fraction) 0
  | _ :: fraction, _ :: power => do
    floatOf negative (← readWhole whole) (← ungroup Char.isDigit fraction) (← readPower power)

/-- The float that a text gives. -/
def readFloat (text : List Char) : Option Binary64 :=
  let (negative, unsigned) := Decimal.splitSign text
  if unsigned = "inf".toList then some (Binary64.ofMagnitude negative Binary64.infinityBits)
  else if unsigned = "nan".toList then some (Decimal.notANumber negative)
  else readUnsignedFloat negative unsigned

end MetricGateway.Toml
