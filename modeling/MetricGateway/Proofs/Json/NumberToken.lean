import MetricGateway.Proofs.Json.Value

/-!
# Number tokens

The numbers of JSON as they are written (`NumberToken`): a minus, digits without a zero in front,
and perhaps a point with digits and an exponent with its mark, sign and digits. Every token is read
part by part and nothing of what follows it (`readNumber_text`). The tokens that are read as
integers are the words (`toNumber_of_isWord`, `exists_float_of_toNumber`): those without a point and
an exponent whose integer fits 64 bits, except for the negative zero. An integer that is read is
printed as the word that it was (`renderInt_integer`).
-/

namespace MetricGateway.Json

open Success Text

/-! ## Parts -/

/-- Digits end at a character that is none. -/
theorem endsDigits_cons {c : Char} (h : c.isDigit = false) (rest : List Char) :
    ∀ d ∈ (c :: rest).head?, d.isDigit = false := by
  intro d hd
  cases hd
  exact h

/-- One digit or more. -/
structure IsDigits (digits : List Char) : Prop where
  ne_nil : digits ≠ []
  isDigit : ∀ c ∈ digits, c.isDigit = true

/-- The exponent of a number as it is written. -/
structure ExponentToken where
  /-- The mark of an exponent, in either letter case. -/
  mark : Char
  /-- A sign, or nothing. -/
  sign : List Char
  digits : List Char
  isMark : mark = 'e' ∨ mark = 'E'
  isSign : sign = [] ∨ sign = ['+'] ∨ sign = ['-']
  isDigits : IsDigits digits

namespace ExponentToken

variable (exponent : ExponentToken)

def text : List Char := exponent.mark :: (exponent.sign ++ exponent.digits)

/-- The integer that an exponent is written as. -/
def value : Int :=
  if exponent.sign = ['-'] then -(valueOf exponent.digits : Int) else valueOf exponent.digits

/-- The mark of an exponent ends the digits before it, and is no point. -/
theorem mark_spec : exponent.mark.isDigit = false ∧ exponent.mark ≠ '.' := by
  rcases exponent.isMark with h | h <;> rw [h] <;> decide

/-- The sign of an exponent is split from its digits. -/
theorem splitSign_sign (rest : List Char) :
    Decimal.splitSign (exponent.sign ++ (exponent.digits ++ rest)) =
      (decide (exponent.sign = ['-']), exponent.digits ++ rest) := by
  rcases exponent.isSign with h | h | h
  · -- Without a sign, the digits do not begin with one.
    obtain ⟨c, digits, hdigits⟩ := List.exists_cons_of_ne_nil exponent.isDigits.ne_nil
    have hc : c.isDigit = true := exponent.isDigits.isDigit c (hdigits ▸ List.mem_cons_self)
    rw [h, hdigits]
    unfold Decimal.splitSign
    split
    · next heq => exact absurd ((List.cons.inj heq).1 ▸ hc) (by decide)
    · next heq => exact absurd ((List.cons.inj heq).1 ▸ hc) (by decide)
    · rfl
  · rw [h]
    rfl
  · rw [h]
    rfl

/-- An exponent is read from its text. -/
theorem readExponent_text {rest : List Char} (h : EndsNumber rest) :
    readExponent (exponent.text ++ rest) = .ok (some exponent.value, rest) := by
  have hdigits := readSomeDigits_append exponent.isDigits.ne_nil exponent.isDigits.isDigit
    fun c hc => (h c hc).1
  unfold text readExponent
  rw [List.cons_append, List.append_assoc]
  dsimp only
  rw [if_pos exponent.isMark, exponent.splitSign_sign]
  dsimp only
  rw [hdigits, ok_bind]
  simp only [decide_eq_true_eq]
  rfl

end ExponentToken

/-! ## Tokens -/

/-- A number as it is written. -/
structure NumberToken where
  /-- Whether a minus stands in front. -/
  negative : Bool
  /-- The digits before the point. -/
  whole : List Char
  /-- The digits behind the point, if there is a point. -/
  fraction : Option (List Char)
  exponent : Option ExponentToken
  isWhole : IsWhole whole
  isDigits : ∀ digits ∈ fraction, IsDigits digits

namespace NumberToken

variable (token : NumberToken)

def fractionText : List Char :=
  match token.fraction with
  | some digits => '.' :: digits
  | none => []

def exponentText : List Char :=
  match token.exponent with
  | some exponent => exponent.text
  | none => []

/-- What stands between the digits before the point and the end of the number. -/
def tail : List Char := token.fractionText ++ token.exponentText

def text : List Char := (if token.negative then ['-'] else []) ++ (token.whole ++ token.tail)

/-- The parts that are read from a token. -/
def numeral : Numeral where
  negative := token.negative
  whole := token.whole
  fraction := token.fraction
  exponent := token.exponent.map ExponentToken.value

/-- The integer that the digits before the point are, with the sign in front. -/
def integer : Int :=
  if token.negative then -(valueOf token.whole : Int) else valueOf token.whole

/-- An integer of 64 bits, signed or not, other than the negative zero. -/
structure IsWord (token : NumberToken) : Prop where
  fraction : token.fraction = none
  exponent : token.exponent = none
  fits : FitsWord token.integer
  ne_negativeZero : token.text ≠ ['-', '0']

/-! ## What is read from a token -/

section Reading

variable {rest : List Char}

/-- An exponent is read if there is one. -/
theorem readExponent_exponentText (h : EndsNumber rest) :
    readExponent (token.exponentText ++ rest) = .ok (token.numeral.exponent, rest) := by
  unfold exponentText numeral
  cases token.exponent with
  | none => exact readExponent_of_endsNumber h
  | some exponent => exact exponent.readExponent_text h

/-- What follows the digits of a fraction begins with no digit and with no point. -/
theorem head?_exponentText (h : EndsNumber rest) :
    ∀ c ∈ (token.exponentText ++ rest).head?, c.isDigit = false ∧ c ≠ '.' := by
  unfold exponentText
  cases token.exponent with
  | none => exact fun c hc => ⟨(h c hc).1, (h c hc).2.1⟩
  | some exponent =>
    rintro c ⟨⟩
    exact exponent.mark_spec

/-- The digits behind a point are read, up to the exponent. -/
theorem readFraction_tail (h : EndsNumber rest) :
    readFraction (token.tail ++ rest) = .ok (token.fraction, token.exponentText ++ rest) := by
  have hhead := token.head?_exponentText h
  unfold tail fractionText
  rw [List.append_assoc]
  cases hfraction : token.fraction with
  | some digits =>
    obtain ⟨hne, hdigits⟩ := token.isDigits digits hfraction
    dsimp only
    rw [List.cons_append, readFraction,
      readSomeDigits_append hne hdigits fun c hc => (hhead c hc).1]
    rfl
  | none =>
    dsimp only
    rw [List.nil_append]
    generalize token.exponentText ++ rest = behind at hhead
    unfold readFraction
    split
    · exact absurd rfl (hhead '.' rfl).2
    · rfl

/-- What follows the digits before the point begins with no digit. -/
theorem head?_tail (h : EndsNumber rest) :
    ∀ c ∈ (token.tail ++ rest).head?, c.isDigit = false := by
  unfold tail fractionText
  rw [List.append_assoc]
  cases token.fraction with
  | some digits => exact endsDigits_cons (by decide) _
  | none => exact fun c hc => (token.head?_exponentText h c hc).1

/-- A token is read as its parts. -/
theorem readNumeral_text (h : EndsNumber rest) :
    readNumeral (token.text ++ rest) = .ok (token.numeral, rest) := by
  have hwhole := readWhole_append token.isWhole (token.head?_tail h)
  have hread := readNumeral_of_parts hwhole (token.readFraction_tail h)
    (token.readExponent_exponentText h) token.negative
  unfold text
  rw [List.append_assoc, List.append_assoc, hread]
  rfl

/-- A token is read as the number of its parts, or refused with it. -/
theorem readNumber_text (h : EndsNumber rest) :
    readNumber (token.text ++ rest) = (token.numeral.toNumber >>= fun n => pure (n, rest)) := by
  unfold readNumber
  rw [token.readNumeral_text h]
  rfl

/-- A token is read as a number if and only if its parts make one. -/
theorem readNumber_text_eq_ok_iff (h : EndsNumber rest) {n : Number} :
    readNumber (token.text ++ rest) = .ok (n, rest) ↔ token.numeral.toNumber = .ok n := by
  rw [token.readNumber_text h]
  cases token.numeral.toNumber with
  | error fault => exact ⟨nofun, nofun⟩
  | ok found =>
    constructor
    · intro hread
      obtain rfl := (Prod.mk.inj (Except.ok.inj hread)).1
      rfl
    · intro hfound
      obtain rfl := Except.ok.inj hfound
      rfl

/-- A token begins with a minus or a digit. -/
theorem begins_text : ∃ c, Begins token.text c ∧ (c = '-' ∨ c.isDigit = true) := by
  obtain ⟨c, digits, hdigits⟩ := List.exists_cons_of_ne_nil token.isWhole.ne_nil
  have hc : c.isDigit = true := token.isWhole.isDigit c (hdigits ▸ List.mem_cons_self)
  unfold text
  cases token.negative with
  | true => exact ⟨'-', .cons (by decide) (by decide) _, .inl rfl⟩
  | false =>
    rw [hdigits]
    exact ⟨c, .cons (begins_digit hc).1 (begins_digit hc).2.1 _, .inr hc⟩

end Reading

end NumberToken

/-! ## Integers -/

/-- A digit is the one of its value. -/
theorem digitChar_of_isDigit {c : Char} (h : c.isDigit = true) :
    c.toNat - 48 < 10 ∧ Nat.digitChar (c.toNat - 48) = c := by
  obtain ⟨hlow, hhigh⟩ : 48 ≤ c.toNat ∧ c.toNat ≤ 57 := Char.isDigit_iff_toNat.1 h
  have hsize : c.toNat - 48 < 10 := by omega
  refine ⟨hsize, Char.toNat_inj.1 ?_⟩
  rw [Nat.toNat_digitChar_of_lt_ten hsize]
  omega

/-- Digits behind those of a positive number make the digits of a greater one. -/
theorem digitsOf_append {n : Nat} (hn : 0 < n) {more : List Char}
    (hmore : ∀ c ∈ more, c.isDigit = true) :
    digitsOf n ++ more = digitsOf (Nat.ofDigitChars 10 more n) := by
  unfold digitsOf
  induction more generalizing n with
  | nil => rw [List.append_nil, Nat.ofDigitChars_nil]
  | cons c more ih =>
    obtain ⟨hsize, hc⟩ := digitChar_of_isDigit (hmore c List.mem_cons_self)
    have hnext := Nat.toDigits_append_toDigits (by decide : 1 < 10) hn hsize
    rw [Nat.toDigits_of_lt_base hsize, hc] at hnext
    rw [Nat.ofDigitChars_cons, ← List.singleton_append, ← List.append_assoc, hnext]
    exact ih (by omega) fun d hd => hmore d (List.mem_cons_of_mem c hd)

/-- Digits without a zero in front are those of the number that they stand for. -/
theorem digitsOf_valueOf {digits : List Char} (h : IsWhole digits) :
    digitsOf (valueOf digits) = digits := by
  obtain ⟨first, more, rfl⟩ := List.exists_cons_of_ne_nil h.ne_nil
  obtain ⟨hsize, hfirst⟩ := digitChar_of_isDigit (h.isDigit first List.mem_cons_self)
  have hvalue : valueOf (first :: more) = Nat.ofDigitChars 10 more (first.toNat - 48) := by
    unfold valueOf
    rw [Nat.ofDigitChars_cons, Nat.mul_zero, Nat.zero_add]
    rfl
  have hsingle : digitsOf (first.toNat - 48) = [first] := by
    unfold digitsOf
    rw [Nat.toDigits_of_lt_base hsize, hfirst]
  rcases Nat.eq_zero_or_pos (first.toNat - 48) with hzero | hpos
  · -- A zero in front stands alone.
    rw [hzero] at hfirst
    obtain rfl : more = [] := by
      have halone := h.alone (congrArg some hfirst.symm)
      exact List.length_eq_zero_iff.1 (Nat.succ.inj halone)
    rw [hvalue, Nat.ofDigitChars_nil, hsingle]
  · rw [hvalue, ← digitsOf_append hpos fun c hc => h.isDigit c (List.mem_cons_of_mem first hc),
      hsingle, List.singleton_append]

namespace NumberToken

variable {token : NumberToken}

/-- Without a point and an exponent, a token is its sign and its digits. -/
theorem text_of_none (hfraction : token.fraction = none) (hexponent : token.exponent = none) :
    token.text = (if token.negative then ['-'] else []) ++ token.whole := by
  unfold text tail fractionText exponentText
  rw [hfraction, hexponent]
  dsimp only
  rw [List.append_nil, List.append_nil]

/-- The sign of a word is that of its integer, and its digits are those of the size. -/
theorem IsWord.spec (h : token.IsWord) :
    decide (token.integer < 0) = token.negative ∧ digitsOf token.integer.natAbs = token.whole := by
  have hdigits := digitsOf_valueOf token.isWhole
  have hnegativeZero := h.ne_negativeZero
  rw [text_of_none h.fraction h.exponent] at hnegativeZero
  unfold integer
  cases hnegative : token.negative with
  | true =>
    -- A minus with nothing behind it would be the negative zero.
    have hpos : valueOf token.whole ≠ 0 := by
      intro hzero
      rw [hnegative, ← hdigits, hzero] at hnegativeZero
      exact hnegativeZero rfl
    rw [if_pos rfl, Int.natAbs_neg, Int.natAbs_natCast]
    exact ⟨decide_eq_true (by omega), hdigits⟩
  | false =>
    rw [if_neg Bool.false_ne_true, Int.natAbs_natCast]
    exact ⟨decide_eq_false (by omega), hdigits⟩

/-- A word is the text of its integer, digit for digit. -/
theorem renderInt_integer (h : token.IsWord) : renderInt token.integer = token.text := by
  obtain ⟨hsign, hdigits⟩ := h.spec
  rw [text_of_none h.fraction h.exponent, ← hsign]
  unfold renderInt
  rw [hdigits]
  by_cases hnegative : token.integer < 0
  · rw [if_pos hnegative, decide_eq_true hnegative]
    rfl
  · rw [if_neg hnegative, decide_eq_false hnegative]
    rfl

/-- A word is read as its integer. -/
theorem toNumber_of_isWord (h : token.IsWord) :
    token.numeral.toNumber = .ok (.integer token.integer) := by
  obtain ⟨hsign, hdigits⟩ := h.spec
  have hnumeral : token.numeral = Numeral.ofInt token.integer := by
    unfold numeral Numeral.ofInt
    rw [hsign, hdigits, h.fraction, h.exponent]
    rfl
  rw [hnumeral, toNumber_ofInt h.fits]

/-- Only words are read as integers. -/
theorem isWord_of_toInt? {n : Int} (h : token.numeral.toInt? = some n) : token.IsWord := by
  unfold Numeral.toInt? numeral at h
  dsimp only at h
  split at h
  · cases h
  next hnone =>
  obtain ⟨hfraction, hexponent⟩ := not_or.1 hnone
  rw [Option.not_isSome_iff_eq_none] at hfraction
  rw [Option.not_isSome_iff_eq_none, Option.map_eq_none_iff] at hexponent
  have htext := text_of_none hfraction hexponent
  unfold Binary64.maxWord at h
  split at h
  next hnegative =>
    split at h
    next hsize =>
      refine ⟨hfraction, hexponent, ?_, ?_⟩
      · unfold integer FitsWord Binary64.maxWord
        rw [if_pos hnegative]
        omega
      · -- A negative zero is no integer.
        rw [htext, if_pos hnegative]
        intro hzero
        have hwhole : token.whole = ['0'] := (List.cons.inj hzero).2
        rw [hwhole] at hsize
        exact hsize.1 rfl
    next => cases h
  next hnegative =>
    split at h
    next hsize =>
      refine ⟨hfraction, hexponent, ?_, ?_⟩
      · unfold integer FitsWord Binary64.maxWord
        rw [if_neg hnegative]
        omega
      · -- A minus is no digit.
        rw [htext, if_neg hnegative, List.nil_append]
        intro hzero
        have hminus := token.isWhole.isDigit '-' (hzero ▸ List.mem_cons_self)
        exact absurd hminus (by decide)
    next => cases h

/-- Any other token is read as a fraction, or refused. -/
theorem exists_float_of_toNumber {n : Number} (hword : ¬token.IsWord)
    (h : token.numeral.toNumber = .ok n) : ∃ x, n = .float x := by
  unfold Numeral.toNumber at h
  split at h
  next i hint => exact absurd (isWord_of_toInt? hint) hword
  next =>
    split at h
    · cases h
    next =>
      obtain rfl := Except.ok.inj h
      exact ⟨_, rfl⟩

end NumberToken

end MetricGateway.Json
