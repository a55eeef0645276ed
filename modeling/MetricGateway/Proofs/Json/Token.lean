import MetricGateway.Json.Token
import MetricGateway.Proofs.Success

/-!
# Reading printed numbers and texts

A printed integer of 64 bits is read as itself, as long as no character follows that a number could
go on with (`readNumber_renderInt`). A printed text is read as itself whatever follows, for every
character that it may hold (`readText_renderText`): the escapes of quotes, backslashes and controls
are undone one by one (`readTextFrom_escapeChar`).
-/

namespace MetricGateway.Json

open Success Text

/-! ## Integers -/

/-- No number goes on here: the text begins with no digit, point or mark of an exponent. -/
def EndsNumber (rest : List Char) : Prop :=
  ∀ c ∈ rest.head?, c.isDigit = false ∧ c ≠ '.' ∧ c ≠ 'e' ∧ c ≠ 'E'

/-- A number ends where the text does. -/
theorem endsNumber_nil : EndsNumber [] := nofun

/-- A number ends before a character that could not go on with it. -/
theorem endsNumber_cons {c : Char} (h : c.isDigit = false ∧ c ≠ '.' ∧ c ≠ 'e' ∧ c ≠ 'E')
    (rest : List Char) : EndsNumber (c :: rest) := by
  intro first hfirst
  cases hfirst
  exact h

/-- An integer that fits 64 bits: those of a signed word if it is negative, and of an unsigned one
otherwise. -/
def FitsWord (n : Int) : Prop := -0x8000000000000000 ≤ n ∧ n ≤ Binary64.maxWord

/-- A natural number that is a word fits. -/
theorem fitsWord_natCast {n : Nat} (h : n ≤ Binary64.maxWord) : FitsWord (n : Int) := by
  constructor <;> omega

/-- A number is written with digits only. -/
theorem isDigit_of_mem_digitsOf {n : Nat} {c : Char} (h : c ∈ digitsOf n) : c.isDigit = true :=
  Nat.isDigit_of_mem_toDigits (by decide) (by decide) h

/-- The digits of a number stand for it. -/
theorem valueOf_digitsOf (n : Nat) : valueOf (digitsOf n) = n := Nat.ofDigitChars_ten_toDigits

/-- Only zero is written with a zero in front. -/
theorem head?_digitsOf {n : Nat} (h : 0 < n) : (digitsOf n).head? ≠ some '0' := by
  unfold digitsOf
  induction n using Nat.strongRecOn with
  | ind n ih =>
    by_cases hlt : n < 10
    · have hsingle : ∀ d < 10, 0 < d → [Nat.digitChar d].head? ≠ some '0' := by decide
      rw [Nat.toDigits_of_lt_base hlt]
      exact hsingle n hlt h
    · have hne : Nat.toDigits 10 (n / 10) ≠ [] := Nat.toDigits_ne_nil
      rw [Nat.toDigits_of_base_le (by decide) (by omega), List.head?_append_of_ne_nil _ hne]
      exact ih (n / 10) (by omega) (by omega)

section Digits

variable {digits rest : List Char}

/-- Digits end where a character that is none stands. -/
theorem splitDigits_append (hdigits : ∀ c ∈ digits, c.isDigit = true)
    (hrest : ∀ c ∈ rest.head?, c.isDigit = false) :
    splitDigits (digits ++ rest) = (digits, rest) := by
  unfold splitDigits
  rw [List.takeWhile_append_of_pos hdigits, List.dropWhile_append_of_pos hdigits]
  cases rest with
  | nil => rw [List.takeWhile_nil, List.dropWhile_nil, List.append_nil]
  | cons c rest =>
    have hc : ¬c.isDigit = true := by
      rw [hrest c rfl]
      decide
    rw [List.takeWhile_cons_of_neg hc, List.dropWhile_cons_of_neg hc, List.append_nil]

/-- Digits are read up to the first character that is none. -/
theorem readSomeDigits_append (hne : digits ≠ []) (hdigits : ∀ c ∈ digits, c.isDigit = true)
    (hrest : ∀ c ∈ rest.head?, c.isDigit = false) :
    readSomeDigits (digits ++ rest) = .ok (digits, rest) := by
  unfold readSomeDigits
  rw [splitDigits_append hdigits hrest]
  cases digits with
  | nil => exact absurd rfl hne
  | cons d digits => rfl

/-- Digits that may stand before a point: a zero in front stands alone. -/
structure IsWhole (digits : List Char) : Prop where
  ne_nil : digits ≠ []
  isDigit : ∀ c ∈ digits, c.isDigit = true
  alone : digits.head? = some '0' → digits.length = 1

/-- A whole part is read up to the first character that is no digit. -/
theorem readWhole_append (h : IsWhole digits) (hrest : ∀ c ∈ rest.head?, c.isDigit = false) :
    readWhole (digits ++ rest) = .ok (digits, rest) := by
  unfold readWhole
  rw [readSomeDigits_append h.ne_nil h.isDigit hrest, ok_bind]
  dsimp only
  -- What is refused is a zero with other digits behind it.
  split
  · next d more hzero => exact absurd (h.alone rfl) (by simp)
  · rfl

/-- The digits of a number may stand before a point. -/
theorem isWhole_digitsOf (n : Nat) : IsWhole (digitsOf n) where
  ne_nil := Nat.toDigits_ne_nil
  isDigit _ hc := isDigit_of_mem_digitsOf hc
  alone hzero := by
    rcases Nat.eq_zero_or_pos n with rfl | hpos
    · rfl
    · exact absurd hzero (head?_digitsOf hpos)

end Digits

/-- The digits of a number are read as its whole part: a zero stands alone. -/
theorem readWhole_digitsOf (n : Nat) {rest : List Char} (h : EndsNumber rest) :
    readWhole (digitsOf n ++ rest) = .ok (digitsOf n, rest) :=
  readWhole_append (isWhole_digitsOf n) fun c hc => (h c hc).1

/-- Where a number ends, there is no fraction. -/
theorem readFraction_of_endsNumber {rest : List Char} (h : EndsNumber rest) :
    readFraction rest = .ok (none, rest) := by
  unfold readFraction
  split
  · exact absurd rfl (h '.' rfl).2.1
  · rfl

/-- Where a number ends, there is no exponent. -/
theorem readExponent_of_endsNumber {rest : List Char} (h : EndsNumber rest) :
    readExponent rest = .ok (none, rest) := by
  unfold readExponent
  split
  · rfl
  · next mark text =>
    have hmark := h mark rfl
    exact if_neg (not_or.2 hmark.2.2)

/-- A number is read part by part behind its sign. -/
theorem readNumeral_of_parts {text afterWhole afterFraction rest whole : List Char}
    {fraction : Option (List Char)} {exponent : Option Int}
    (hwhole : readWhole text = .ok (whole, afterWhole))
    (hfraction : readFraction afterWhole = .ok (fraction, afterFraction))
    (hexponent : readExponent afterFraction = .ok (exponent, rest)) (negative : Bool) :
    readNumeral ((if negative then ['-'] else []) ++ text) =
      .ok ({ negative, whole, fraction, exponent }, rest) := by
  unfold readNumeral
  cases negative with
  | true =>
    simp only [if_true, List.singleton_append, hwhole, hfraction, hexponent, ok_bind]
    rfl
  | false =>
    -- Without a sign, the text does not begin with one: no whole part does.
    rw [if_neg Bool.false_ne_true, List.nil_append]
    split
    next negative unsigned heq =>
    split at heq
    · cases hwhole
    · cases heq
      simp only [hwhole, hfraction, hexponent, ok_bind]
      rfl

/-- The parts of an integer as it is written. -/
def Numeral.ofInt (n : Int) : Numeral where
  negative := n < 0
  whole := digitsOf n.natAbs
  fraction := none
  exponent := none

/-- The text of an integer is read part by part. -/
theorem readNumeral_renderInt (n : Int) {rest : List Char} (h : EndsNumber rest) :
    readNumeral (renderInt n ++ rest) = .ok (Numeral.ofInt n, rest) := by
  have hread := readNumeral_of_parts (readWhole_digitsOf n.natAbs h)
    (readFraction_of_endsNumber h) (readExponent_of_endsNumber h) (n < 0)
  have htext : renderInt n = (if decide (n < 0) then ['-'] else []) ++ digitsOf n.natAbs := by
    unfold renderInt
    by_cases hneg : n < 0
    · rw [if_pos hneg, decide_eq_true hneg]
      rfl
    · rw [if_neg hneg, decide_eq_false hneg]
      rfl
  rw [htext, List.append_assoc, hread]
  rfl

/-- An integer of 64 bits is the one that it is written as. -/
theorem toNumber_ofInt {n : Int} (h : FitsWord n) :
    (Numeral.ofInt n).toNumber = .ok (.integer n) := by
  have hsize : valueOf (digitsOf n.natAbs) = n.natAbs := valueOf_digitsOf n.natAbs
  have hint : (Numeral.ofInt n).toInt? = some n := by
    unfold Numeral.toInt? Numeral.ofInt
    dsimp only
    rw [hsize, if_neg (by decide)]
    by_cases hneg : n < 0
    · have hbound : n.natAbs ≠ 0 ∧ n.natAbs ≤ 0x8000000000000000 := by
        have := h.1
        omega
      rw [if_pos (decide_eq_true hneg), if_pos hbound]
      congr 1
      omega
    · have hbound : n.natAbs ≤ Binary64.maxWord := by
        have := h.2
        omega
      rw [if_neg (by simpa using hneg), if_pos hbound]
      congr 1
      omega
  unfold Numeral.toNumber
  rw [hint]

/-- An integer that fits is read from its text. -/
theorem readNumber_renderInt {n : Int} (hn : FitsWord n) {rest : List Char} (h : EndsNumber rest) :
    readNumber (renderInt n ++ rest) = .ok (.integer n, rest) := by
  unfold readNumber
  rw [readNumeral_renderInt n h, ok_bind]
  dsimp only
  rw [toNumber_ofInt hn, ok_bind]
  rfl

/-! ## Texts -/

/-- A character that is neither a quote nor a backslash stands for itself, unless it is a
control. -/
theorem readTextFrom_cons {c : Char} (hquote : c ≠ '\"') (hbackslash : c ≠ '\\')
    (mark : Option Char) (read rest : List Char) :
    readTextFrom mark read (c :: rest) =
      if c.toNat < 32 then fail .controlCharacter else readTextFrom mark (c :: read) rest := by
  rw [readTextFrom]
  · exact hquote
  · exact fun h _ => hbackslash h
  · exact fun _ _ _ _ _ h _ => hbackslash h
  · exact fun _ h _ => hbackslash h
  · exact fun _ _ h _ => hbackslash h

/-- A short escape is read as its character. -/
theorem readTextFrom_short {c e : Char} (hshort : shortEscape? c = some e)
    (mark : Option Char) (read rest : List Char) :
    readTextFrom mark read ('\\' :: c :: rest) = readTextFrom mark (e :: read) rest := by
  have hu : c ≠ 'u' := by
    rintro rfl
    cases hshort
  rw [readTextFrom, hshort]
  · exact fun _ _ _ _ _ h _ => hu h
  · exact hu

/-- The code of a control character is read from its digits. -/
theorem hexUnit?_lowerHexDigit : ∀ n < 32,
    hexUnit? '0' '0' (lowerHexDigit (n / 16)) (lowerHexDigit (n % 16)) = some n := by
  decide

/-- The long escape of a control is read as the control. -/
theorem readTextFrom_long {c : Char} (hcontrol : c.toNat < 32) (mark : Option Char)
    (read rest : List Char) :
    readTextFrom mark read ('\\' :: 'u' :: '0' :: '0' :: lowerHexDigit (c.toNat / 16) ::
        lowerHexDigit (c.toNat % 16) :: rest) = readTextFrom mark (c :: read) rest := by
  have hlow : ¬isLowHalf c.toNat = true := by
    unfold isLowHalf
    simp only [Bool.and_eq_true, decide_eq_true_eq]
    omega
  have hhigh : ¬isHighHalf c.toNat = true := by
    unfold isHighHalf
    simp only [Bool.and_eq_true, decide_eq_true_eq]
    omega
  rw [readTextFrom, hexUnit?_lowerHexDigit _ hcontrol]
  dsimp only
  rw [if_neg hlow, if_neg hhigh, Char.ofNat_toNat]

/-- The escape of a character is read as the character. -/
theorem readTextFrom_escapeChar (c : Char) (mark : Option Char) (read rest : List Char) :
    readTextFrom mark read (escapeChar c ++ rest) = readTextFrom mark (c :: read) rest := by
  unfold escapeChar
  -- The short escapes come first, in the order in which they are written.
  split
  · next h => exact h.symm ▸ readTextFrom_short (e := '\"') rfl mark read rest
  next hquote =>
  split
  · next h => exact h.symm ▸ readTextFrom_short (e := '\\') rfl mark read rest
  next hbackslash =>
  split
  · next h => exact h.symm ▸ readTextFrom_short (e := '\x08') rfl mark read rest
  split
  · next h => exact h.symm ▸ readTextFrom_short (e := '\t') rfl mark read rest
  split
  · next h => exact h.symm ▸ readTextFrom_short (e := '\n') rfl mark read rest
  split
  · next h => exact h.symm ▸ readTextFrom_short (e := '\x0c') rfl mark read rest
  split
  · next h => exact h.symm ▸ readTextFrom_short (e := '\r') rfl mark read rest
  split
  · next hcontrol => exact readTextFrom_long hcontrol mark read rest
  · next hcontrol =>
    rw [List.singleton_append, readTextFrom_cons hquote hbackslash, if_neg hcontrol]

/-- What stands before the closing quote of a printed text is read as the characters of the text. -/
theorem readTextFrom_flatMap_escapeChar (text : List Char) (read rest : List Char) :
    readTextFrom none read (text.flatMap escapeChar ++ '\"' :: rest) =
      .ok (String.ofList (read.reverse ++ text), rest) := by
  induction text generalizing read with
  | nil =>
    rw [List.flatMap_nil, List.nil_append, List.append_nil, readTextFrom]
    rfl
  | cons c text ih =>
    rw [List.flatMap_cons, List.append_assoc, readTextFrom_escapeChar, ih, List.reverse_cons,
      List.append_assoc, List.singleton_append]

/-- A printed text is read as the text, behind its opening quote. -/
theorem readText_renderText (s : String) (rest : List Char) :
    readText none (s.toList.flatMap escapeChar ++ '\"' :: rest) = .ok (s, rest) := by
  unfold readText
  rw [readTextFrom_flatMap_escapeChar, List.reverse_nil, List.nil_append, String.ofList_toList]

end MetricGateway.Json
