/-!
# Labels in basic characters

A label of a domain that holds other than basic characters is written with basic ones only: first
its basic characters, then a code for where the others are put in, in the order of their values.
Each step of the code is a number in digits of a base that is adapted to the steps before it.
-/

namespace MetricGateway.Punycode

/-- A digit as a character. -/
def digitChar (d : Nat) : Char := Char.ofNat (if d < 26 then 97 + d else 22 + d)

/-- The value of a digit. -/
def digitValue (c : Char) : Option Nat :=
  if c.isLower then some (c.toNat - 97)
  else if c.isUpper then some (c.toNat - 65)
  else if c.isDigit then some (c.toNat - 22)
  else none

/-- The least digit at a place that is not the last one of a number. -/
def threshold (bias place : Nat) : Nat :=
  if place ≤ bias + 1 then 1 else if bias + 26 ≤ place then 26 else place - bias

/-- How often a number can be divided until it is small, and what it is then. -/
def shrink (delta : Nat) : Nat × Nat :=
  if 455 < delta then
    let (count, rest) := shrink (delta / 35)
    (count + 1, rest)
  else (0, delta)
termination_by delta
decreasing_by omega

/-- The bias after a step, given how many characters there are with the one put in. -/
def adapt (delta count : Nat) (isFirst : Bool) : Nat :=
  let scaled := if isFirst then delta / 700 else delta / 2
  let (places, rest) := shrink (scaled + scaled / count)
  places * 36 + 36 * rest / (rest + 38)

/-- The digits of a number, given the most digits that it may have. -/
def numberDigits (bias : Nat) : Nat → Nat → Nat → List Char
  | 0, _, _ => []
  | fuel + 1, place, n =>
    let t := threshold bias place
    if n < t then [digitChar n]
    else digitChar (t + (n - t) % (36 - t)) ::
      numberDigits bias fuel (place + 36) ((n - t) / (36 - t))

/-- What has been written of a label. -/
structure Writing where
  written : List Char
  delta : Nat
  bias : Nat
  /-- How many characters have been put in. -/
  count : Nat

/-- What has been written after a look at one character for the given value. -/
def Writing.next (basicCount value : Nat) (w : Writing) (c : Char) : Writing :=
  if c.toNat < value then { w with delta := w.delta + 1 }
  else if c.toNat = value then
    { written := w.written ++ numberDigits w.bias (w.delta + 1) 36 w.delta
      delta := 0
      bias := adapt w.delta (w.count + 1) (w.count = basicCount)
      count := w.count + 1 }
  else w

/-- Writes all characters of the given values, which come after all values below `n`. -/
def writeValues (label : List Char) (basicCount : Nat) :
    List Nat → Nat → Writing → Writing
  | [], _, w => w
  | value :: rest, n, w =>
    let w := { w with delta := w.delta + (value - n) * (w.count + 1) }
    let w := label.foldl (Writing.next basicCount value) w
    writeValues label basicCount rest (value + 1) { w with delta := w.delta + 1 }

/-- Whether a character is a basic one. -/
def isBasic (c : Char) : Bool := c.toNat < 0x80

/-- A label in basic characters. -/
def encode (label : List Char) : List Char :=
  let basic := label.filter isBasic
  let values := ((label.filter fun c => !isBasic c).map Char.toNat).mergeSort.eraseDups
  let start : Writing := { written := [], delta := 0, bias := 72, count := basic.length }
  basic ++ (if basic = [] then [] else ['-']) ++
    (writeValues label basic.length values 0x80 start).written

/-- A number at the beginning of a code, added to `sum`, and what follows it. -/
def readNumber (bias : Nat) : List Char → Nat → Nat → Nat → Option (Nat × List Char)
  | [], _, _, _ => none
  | c :: rest, place, weight, sum => do
    let d ← digitValue c
    let t := threshold bias place
    if d < t then some (sum + d * weight, rest)
    else readNumber bias rest (place + 36) (weight * (36 - t)) (sum + d * weight)

/-- The characters of a label with those put in that a code names, given at most how many they
are. -/
def insertAll : Nat → Nat → Nat → Nat → List Char → List Char → Option (List Char)
  | _, _, _, _, label, [] => some label
  | 0, _, _, _, _, _ :: _ => none
  | fuel + 1, bias, n, i, label, code => do
    let (position, rest) ← readNumber bias code 36 1 i
    let count := label.length + 1
    let value := n + position / count
    if value.isValidChar then
      let place := position % count
      insertAll fuel (adapt (position - i) count (i = 0)) value (place + 1)
        (label.take place ++ Char.ofNat value :: label.drop place) rest
    else none

/-- The label that is written with basic characters. -/
def decode (text : List Char) : Option (List Char) :=
  let code := (text.reverse.takeWhile (· ≠ '-')).reverse
  let basic := (text.take (text.length - code.length)).dropLast
  insertAll code.length 72 0x80 0 basic code

end MetricGateway.Punycode
