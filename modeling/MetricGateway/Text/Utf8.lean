/-!
# Bytes of texts

The encoding of texts as bytes, and the reading of bytes that may hold sequences which encode no
character. Such a sequence is taken as far as it could have been the beginning of a character.
-/

namespace MetricGateway.Text

/-- A sequence of bytes. -/
abbrev Bytes := List UInt8

/-- The bytes of a list of characters. -/
def utf8Of (text : List Char) : Bytes := text.flatMap String.utf8EncodeChar

/-- The bytes of a text. -/
def utf8 (text : String) : Bytes := utf8Of text.toList

/-- The beginning of a character of several bytes. -/
structure Pending where
  /-- The bits read so far. -/
  value : Nat
  /-- How many more bytes belong to the character. -/
  missing : Nat
  /-- The least value of the next byte. -/
  low : Nat := 0x80
  /-- The greatest value of the next byte. -/
  high : Nat := 0xBF
  deriving Repr

/-- What a first byte can be. -/
inductive Lead where
  /-- A character of its own. -/
  | whole (c : Char)
  /-- The beginning of a longer character. -/
  | longer (pending : Pending)
  /-- No first byte of any character. -/
  | malformed

/-- What a byte is as a first byte. The bounds on the second byte keep out codes that have a
shorter encoding, halves of pairs, and codes beyond the last character. -/
def lead (b : Nat) : Lead :=
  if b < 0x80 then .whole (Char.ofNat b)
  else if 0xC2 ≤ b ∧ b ≤ 0xDF then .longer { value := b - 0xC0, missing := 1 }
  else if b = 0xE0 then .longer { value := 0, missing := 2, low := 0xA0 }
  else if b = 0xED then .longer { value := 0xD, missing := 2, high := 0x9F }
  else if 0xE1 ≤ b ∧ b ≤ 0xEF then .longer { value := b - 0xE0, missing := 2 }
  else if b = 0xF0 then .longer { value := 0, missing := 3, low := 0x90 }
  else if b = 0xF4 then .longer { value := 4, missing := 3, high := 0x8F }
  else if 0xF1 ≤ b ∧ b ≤ 0xF3 then .longer { value := b - 0xF0, missing := 3 }
  else .malformed

/-- The characters of bytes, with nothing in the place of each malformed sequence, given the
character that has begun. -/
def charactersFrom : Option Pending → Bytes → List (Option Char)
  | none, [] => []
  | some _, [] => [none]
  | none, b :: rest =>
    match lead b.toNat with
    | .whole c => some c :: charactersFrom none rest
    | .longer pending => charactersFrom (some pending) rest
    | .malformed => none :: charactersFrom none rest
  | some pending, b :: rest =>
    if pending.low ≤ b.toNat ∧ b.toNat ≤ pending.high then
      let value := pending.value * 64 + (b.toNat - 0x80)
      if pending.missing ≤ 1 then some (Char.ofNat value) :: charactersFrom none rest
      else charactersFrom (some { value, missing := pending.missing - 1 }) rest
    else
      match lead b.toNat with
      | .whole c => none :: some c :: charactersFrom none rest
      | .longer pending => none :: charactersFrom (some pending) rest
      | .malformed => none :: none :: charactersFrom none rest

/-- The characters of bytes, with nothing in the place of each malformed sequence. -/
def characters (bytes : Bytes) : List (Option Char) := charactersFrom none bytes

/-- The text of bytes that hold no malformed sequence. -/
def ofUtf8? (bytes : Bytes) : Option String := ((characters bytes).mapM id).map String.ofList

/-- The character that stands for a malformed sequence. -/
def replacement : Char := '\ufffd'

/-- The text of bytes, with the replacement character for each malformed sequence. -/
def ofUtf8Lossy (bytes : Bytes) : String :=
  String.ofList ((characters bytes).map (·.getD replacement))

end MetricGateway.Text
