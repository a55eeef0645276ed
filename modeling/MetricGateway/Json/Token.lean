import MetricGateway.Json.Fault
import MetricGateway.Decimal.Reading

/-!
# Words, numbers and quoted texts of JSON

The parts of a JSON text that hold no other values. A reader takes the characters that are left
and returns what it read with the characters after it, or a fault.
-/

namespace MetricGateway.Json

/-- The fault of a cause found at the value that is being read. -/
def fail {α : Type} (cause : Cause) : Except Fault α := .error { cause }

/-- The reading as a part of a value, under the given segment. -/
def within {α : Type} (segment : Segment) (reading : Except Fault α) : Except Fault α :=
  reading.mapError (Fault.within segment)

/-- Whether a character may stand between the parts of a JSON text. -/
def isSpace (c : Char) : Bool := c = ' ' || c = '\n' || c = '\t' || c = '\r'

/-- The characters without the blanks at their beginning. -/
def skipSpace (text : List Char) : List Char := text.dropWhile isSpace

/-- Reads the rest of a literal word. -/
def readWord : List Char → List Char → Except Fault (List Char)
  | [], text => .ok text
  | _ :: _, [] => fail .endInValue
  | w :: word, c :: text => if w = c then readWord word text else fail .noWord

/-- The parts of a number as they are written. -/
structure Numeral where
  negative : Bool
  /-- The digits before the point. -/
  whole : List Char
  /-- The digits after the point, if there is a point. -/
  fraction : Option (List Char)
  /-- The exponent, if there is one. -/
  exponent : Option Int
  deriving Repr

/-- Reads at least one digit. -/
def readSomeDigits (text : List Char) : Except Fault (List Char × List Char) :=
  match Text.splitDigits text with
  | ([], []) => fail .endInValue
  | ([], _ :: _) => fail .badNumber
  | (digits, rest) => .ok (digits, rest)

/-- Reads the digits before the point: a zero stands alone. -/
def readWhole (text : List Char) : Except Fault (List Char × List Char) := do
  let (digits, rest) ← readSomeDigits text
  match digits with
  | '0' :: _ :: _ => fail .badNumber
  | _ => pure (digits, rest)

/-- Reads a point and the digits after it, if there is a point. -/
def readFraction : List Char → Except Fault (Option (List Char) × List Char)
  | '.' :: text => do
    let (digits, rest) ← readSomeDigits text
    pure (some digits, rest)
  | text => .ok (none, text)

/-- Reads an exponent, if there is one. -/
def readExponent : List Char → Except Fault (Option Int × List Char)
  | [] => .ok (none, [])
  | mark :: text =>
    if mark = 'e' ∨ mark = 'E' then do
      let (negative, unsigned) := Decimal.splitSign text
      let (digits, rest) ← readSomeDigits unsigned
      let size : Int := Text.valueOf digits
      pure (some (if negative then -size else size), rest)
    else .ok (none, mark :: text)

/-- Reads the parts of a number. -/
def readNumeral (text : List Char) : Except Fault (Numeral × List Char) := do
  let (negative, unsigned) :=
    match text with
    | '-' :: rest => (true, rest)
    | _ => (false, text)
  let (whole, afterWhole) ← readWhole unsigned
  let (fraction, afterFraction) ← readFraction afterWhole
  let (exponent, rest) ← readExponent afterFraction
  pure (⟨negative, whole, fraction, exponent⟩, rest)

/-- A natural number with digits behind it, as many as there are until it would not fit 64 bits any
more, and the digits that are left. -/
def accumulate : Nat → List Char → Nat × List Char
  | n, [] => (n, [])
  | n, c :: rest =>
    let next := 10 * n + (c.toNat - 48)
    if next ≤ Binary64.maxWord then accumulate next rest else (n, c :: rest)

/-- The digits of a number that count, as one natural number, and the power of ten that weighs the
last one. The digits left out before the point are counted, and those behind it are not. -/
def Numeral.parts (n : Numeral) : Nat × Int :=
  let fraction := n.fraction.getD []
  let (significand, left) := accumulate 0 n.whole
  let (significand, leftBehind) := accumulate significand fraction
  (significand, n.exponent.getD 0 + left.length - (fraction.length - leftBehind.length : Nat))

/-- The exponent of the greatest power of ten that is a number. -/
def maxPower : Nat := 308

/-- The number nearest to a power of ten. -/
def powerOfTen (exponent : Nat) : Binary64 := Binary64.ofDecimal false 1 exponent

/-- A number divided by the greatest power of ten so many times, or until nothing is left of it. -/
def shrink : Nat → Binary64 → Binary64
  | 0, x => x
  | times + 1, x =>
    if x.magnitude = 0 then x else shrink times (x.dividedBy (powerOfTen maxPower))

/-- The number that digits and a power of ten make. It is rounded for the digits and once more for
each power that it is multiplied with or divided by, so it need not be the nearest one. -/
def ofParts (significand : Nat) (exponent : Int) : Binary64 :=
  let digits := Binary64.ofDecimal false significand 0
  if 0 ≤ exponent then
    if exponent ≤ maxPower then digits.times (powerOfTen exponent.toNat)
    else if significand = 0 then digits
    else Binary64.ofMagnitude false Binary64.infinityBits
  else
    let places := (-exponent).toNat
    let rounds := (places - 1) / maxPower
    (shrink rounds digits).dividedBy (powerOfTen (places - maxPower * rounds))

/-- The fraction as which a number is read that is written in this way. -/
def Numeral.toBinary (n : Numeral) : Binary64 :=
  Binary64.ofMagnitude n.negative (ofParts n.parts.1 n.parts.2).magnitude

/-- The integer that a number is written as: it has neither point nor exponent, is not a negative
zero, and fits 64 bits. -/
def Numeral.toInt? (n : Numeral) : Option Int :=
  let size := Text.valueOf n.whole
  if n.fraction.isSome ∨ n.exponent.isSome then none
  else if n.negative then
    if size ≠ 0 ∧ size ≤ 0x8000000000000000 then some (-(size : Int)) else none
  else if size ≤ Binary64.maxWord then some size else none

/-- The number that is written. A number beyond the largest fraction is refused. -/
def Numeral.toNumber (n : Numeral) : Except Fault Number :=
  match n.toInt? with
  | some i => .ok (.integer i)
  | none =>
    if n.toBinary.magnitude = Binary64.infinityBits then fail .numberOutOfRange
    else .ok (.float n.toBinary)

/-- Reads a number. -/
def readNumber (text : List Char) : Except Fault (Number × List Char) := do
  let (numeral, rest) ← readNumeral text
  pure (← numeral.toNumber, rest)

/-- The value of four hexadecimal digits. -/
def hexUnit? (a b c d : Char) : Option Nat := do
  let high := (← Text.hexDigitValue? a) * 16 + (← Text.hexDigitValue? b)
  let low := (← Text.hexDigitValue? c) * 16 + (← Text.hexDigitValue? d)
  pure (high * 256 + low)

/-- Why four hexadecimal digits cannot be read from a text that does not begin with them: the
text has less than four bytes left, or one of them is no digit. -/
def hexFault (text : List Char) : Cause :=
  if (String.ofList text).utf8ByteSize < 4 then .endInText else .badEscape

/-- The character of a short escape. -/
def shortEscape? : Char → Option Char
  | '\"' => some '\"'
  | '\\' => some '\\'
  | '/' => some '/'
  | 'b' => some '\x08'
  | 'f' => some '\x0c'
  | 'n' => some '\n'
  | 'r' => some '\r'
  | 't' => some '\t'
  | _ => none

/-- Whether a unit is the first half of a pair. -/
def isHighHalf (unit : Nat) : Bool := 0xD800 ≤ unit && unit < 0xDC00

/-- Whether a unit is the second half of a pair. -/
def isLowHalf (unit : Nat) : Bool := 0xDC00 ≤ unit && unit < 0xE000

/-- The character of a pair of halves. -/
def joinHalves (high low : Nat) : Char :=
  Char.ofNat ((high - 0xD800) * 0x400 + (low - 0xDC00) + 0x10000)

/-- Ends a quoted text: a text that holds the mark of bytes that are no characters is refused. -/
def finishText (mark : Option Char) (reversed : List Char) (rest : List Char) :
    Except Fault (String × List Char) :=
  if mark.any fun m => reversed.contains m then fail .badCodePoint
  else .ok (String.ofList reversed.reverse, rest)

/-- Reads a quoted text after its opening quote, keeping what was read in reverse. -/
def readTextFrom (mark : Option Char) (read : List Char) :
    List Char → Except Fault (String × List Char)
  | [] => fail .endInText
  | '\"' :: rest => finishText mark read rest
  | ['\\'] => fail .endInText
  | '\\' :: 'u' :: a :: b :: c :: d :: rest =>
    match hexUnit? a b c d with
    | none => fail .badEscape
    | some unit =>
      if isLowHalf unit then fail .loneHalf
      else if isHighHalf unit then
        match rest with
        | '\\' :: 'u' :: e :: f :: g :: h :: rest =>
          match hexUnit? e f g h with
          | none => fail .badEscape
          | some low =>
            if isLowHalf low then readTextFrom mark (joinHalves unit low :: read) rest
            else fail .loneHalf
        | '\\' :: 'u' :: rest => fail (hexFault rest)
        | [] | ['\\'] => fail .endInText
        | _ => fail .unfinishedPair
      else readTextFrom mark (Char.ofNat unit :: read) rest
  | '\\' :: 'u' :: rest => fail (hexFault rest)
  | '\\' :: c :: rest =>
    match shortEscape? c with
    | some e => readTextFrom mark (e :: read) rest
    | none => fail .badEscape
  | c :: rest =>
    if c.toNat < 32 then fail .controlCharacter else readTextFrom mark (c :: read) rest

/-- Reads a quoted text after its opening quote. -/
def readText (mark : Option Char) (text : List Char) : Except Fault (String × List Char) :=
  readTextFrom mark [] text

/-- Passes over a quoted text after its opening quote, checking its escapes only for their form. -/
def skipText : List Char → Except Fault (List Char)
  | [] => fail .endInText
  | '\"' :: rest => .ok rest
  | ['\\'] => fail .endInText
  | '\\' :: 'u' :: a :: b :: c :: d :: rest =>
    if (hexUnit? a b c d).isSome then skipText rest else fail .badEscape
  | '\\' :: 'u' :: rest => fail (hexFault rest)
  | '\\' :: c :: rest => if (shortEscape? c).isSome then skipText rest else fail .badEscape
  | c :: rest => if c.toNat < 32 then fail .controlCharacter else skipText rest

/-- Passes over a number. Whatever is wrong with it, it is a bad number. -/
def skipNumber (text : List Char) : Except Fault (List Char) :=
  match readNumeral text with
  | .ok (_, rest) => .ok rest
  | .error _ => fail .badNumber

end MetricGateway.Json
