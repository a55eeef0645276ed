import MetricGateway.Json.Printer
import MetricGateway.Proofs.Decimal.Shortest
import MetricGateway.Proofs.Json.NumberToken
import MetricGateway.Proofs.Json.Parts

/-!
# Reading printed fractions

The text of a decimal has a point or an exponent, and is read as a number with the digits of the
decimal, perhaps with zeros behind them (`Numeral.Spells`), in every layout that keeps the point. So
a printed fraction is read as a finite fraction (`readNumber_renderFinite`). This is the fraction
itself if its shortest decimal has few digits, and may be another one near it if not, since digits
and a power of ten are rounded one after the other.
-/

namespace MetricGateway.Json

open Success Text

/-! ## Digits -/

/-- Zeros behind digits weigh them. -/
theorem valueOf_append_zeros (digits : List Char) (count : Nat) :
    valueOf (digits ++ List.replicate count '0') = 10 ^ count * valueOf digits := by
  unfold valueOf
  rw [Nat.ofDigitChars_append, Nat.ofDigitChars_replicate_zero]

/-- Zeros are digits. -/
theorem isDigit_zeros (count : Nat) : ∀ c ∈ List.replicate count '0', c.isDigit = true := by
  intro c hc
  rw [List.eq_of_mem_replicate hc]
  rfl

/-- The digit behind the point of a whole number. -/
theorem isDigits_zero : IsDigits ['0'] := ⟨List.cons_ne_nil _ _, isDigit_zeros 1⟩

section Pad

variable (width : Nat) (digits : List Char)

/-- Zeros before digits add nothing. -/
theorem valueOf_padZeros : valueOf (padZeros width digits) = valueOf digits := by
  unfold valueOf padZeros
  rw [Nat.ofDigitChars_append, Nat.ofDigitChars_replicate_zero, Nat.mul_zero]

/-- Zeros are put before digits up to the width. -/
theorem length_padZeros : (padZeros width digits).length = max width digits.length := by
  unfold padZeros
  rw [List.length_append, List.length_replicate]
  omega

/-- Padded digits are digits. -/
theorem isDigit_padZeros (h : ∀ c ∈ digits, c.isDigit = true) :
    ∀ c ∈ padZeros width digits, c.isDigit = true := by
  intro c hc
  rcases List.mem_append.1 hc with hc | hc
  · exact isDigit_zeros _ c hc
  · exact h c hc

end Pad

/-! ## Fractions as they are written -/

/-- What is written with a point or an exponent is no integer. -/
theorem Numeral.toInt?_eq_none {numeral : Numeral}
    (h : numeral.fraction.isSome ∨ numeral.exponent.isSome) : numeral.toInt? = none := by
  unfold toInt?
  exact if_pos h

/-- A number as it is written has this text, its sign aside, and a point or an exponent. Its digits
are these, and the last one has this exponent. -/
structure Numeral.Spells (numeral : Numeral) (text : List Char) (digits : Nat) (exponent : Int) :
    Prop where
  isDigit : ∀ c ∈ numeral.whole, c.isDigit = true
  isFraction : numeral.fraction.isSome ∨ numeral.exponent.isSome
  digits_eq : valueOf (numeral.whole ++ numeral.fraction.getD []) = digits
  exponent_eq : numeral.exponent.getD 0 - (numeral.fraction.getD []).length = exponent
  read : ∀ (negative : Bool) (rest : List Char), EndsNumber rest →
    readNumeral ((if negative then ['-'] else []) ++ text ++ rest) =
      .ok ({ numeral with negative }, rest)

/-- A token with a point or an exponent has its text, with any sign. -/
theorem NumberToken.spells (token : NumberToken)
    (h : token.fraction.isSome ∨ token.exponent.isSome) :
    token.numeral.Spells (token.whole ++ token.tail)
      (valueOf (token.whole ++ token.fraction.getD []))
      (token.numeral.exponent.getD 0 - (token.fraction.getD []).length) where
  isDigit := token.isWhole.isDigit
  isFraction := h.imp_right fun hexponent => by rwa [numeral, Option.isSome_map]
  digits_eq := rfl
  exponent_eq := rfl
  read negative rest hrest := { token with negative }.readNumeral_text hrest

/-- The exponent of a printed number: its sign is always written, and its digits are padded. -/
def printedExponent (width : Nat) (exponent : Int) : ExponentToken where
  mark := 'e'
  sign := [if exponent < 0 then '-' else '+']
  digits := padZeros width (digitsOf exponent.natAbs)
  isMark := .inl rfl
  isSign := by
    split
    · exact .inr (.inr rfl)
    · exact .inr (.inl rfl)
  isDigits := {
    ne_nil := List.append_ne_nil_of_right_ne_nil _ Nat.toDigits_ne_nil
    isDigit := isDigit_padZeros width _ (isWhole_digitsOf exponent.natAbs).isDigit }

/-- The padding leaves the exponent. -/
theorem value_printedExponent (width : Nat) (exponent : Int) :
    (printedExponent width exponent).value = exponent := by
  have hsign : (printedExponent width exponent).sign = ['-'] ↔ exponent < 0 := by
    change [if exponent < 0 then '-' else '+'] = ['-'] ↔ exponent < 0
    split <;> simp [*]
  have hsize : valueOf (printedExponent width exponent).digits = exponent.natAbs := by
    change valueOf (padZeros width (digitsOf exponent.natAbs)) = _
    rw [valueOf_padZeros, valueOf_digitsOf]
  unfold ExponentToken.value
  simp only [hsign, hsize]
  split <;> omega

section Parts

variable {whole fraction : List Char}

/-- Digits around a point. -/
theorem spells_point (hwhole : IsWhole whole) (hfraction : IsDigits fraction) :
    ∃ numeral : Numeral, numeral.Spells (whole ++ '.' :: fraction) (valueOf (whole ++ fraction))
      (0 - (fraction.length : Int)) := by
  let token : NumberToken := {
    negative := false, whole, fraction := some fraction, exponent := none, isWhole := hwhole
    isDigits := fun digits hdigits => Option.some.inj hdigits ▸ hfraction }
  have htail : token.tail = '.' :: fraction := List.append_nil _
  exact ⟨token.numeral, htail ▸ token.spells (.inl rfl)⟩

/-- Digits and an exponent. -/
theorem spells_exponent (hwhole : IsWhole whole) (width : Nat) (exponent : Int) :
    ∃ numeral : Numeral, numeral.Spells (whole ++ (printedExponent width exponent).text)
      (valueOf whole) exponent := by
  let token : NumberToken := {
    negative := false, whole, fraction := none, exponent := some (printedExponent width exponent)
    isWhole := hwhole, isDigits := nofun }
  have hspells := token.spells (.inr rfl)
  have hdigits : whole ++ token.fraction.getD [] = whole := List.append_nil _
  have hexponent : token.numeral.exponent.getD 0 - ((token.fraction.getD []).length : Int) =
      exponent := by
    change (printedExponent width exponent).value - (0 : Nat) = _
    rw [value_printedExponent, Nat.cast_zero, sub_zero]
  rw [hexponent, hdigits] at hspells
  exact ⟨token.numeral, hspells⟩

/-- Digits around a point, and an exponent. -/
theorem spells_point_exponent (hwhole : IsWhole whole) (hfraction : IsDigits fraction)
    (width : Nat) (exponent : Int) :
    ∃ numeral : Numeral,
      numeral.Spells (whole ++ '.' :: (fraction ++ (printedExponent width exponent).text))
        (valueOf (whole ++ fraction)) (exponent - fraction.length) := by
  let token : NumberToken := {
    negative := false, whole, fraction := some fraction
    exponent := some (printedExponent width exponent), isWhole := hwhole
    isDigits := fun digits hdigits => Option.some.inj hdigits ▸ hfraction }
  have hspells := token.spells (.inl rfl)
  have hexponent : token.numeral.exponent.getD 0 - ((token.fraction.getD []).length : Int) =
      exponent - fraction.length := by
    change (printedExponent width exponent).value - (fraction.length : Int) = _
    rw [value_printedExponent]
  rw [hexponent] at hspells
  exact ⟨token.numeral, hspells⟩

end Parts

/-! ## Layouts -/

section Whole

variable {digits : List Char}

/-- Digits without a zero in front may stand before a point, whatever digits follow. -/
theorem isWhole_append (hne : digits ≠ []) (hdigits : ∀ c ∈ digits, c.isDigit = true)
    (hhead : digits.head? ≠ some '0') {more : List Char} (hmore : ∀ c ∈ more, c.isDigit = true) :
    IsWhole (digits ++ more) where
  ne_nil := List.append_ne_nil_of_left_ne_nil hne _
  isDigit c hc := (List.mem_append.1 hc).elim (hdigits c) (hmore c)
  alone hzero := by
    rw [List.head?_append_of_ne_nil _ hne] at hzero
    exact absurd hzero hhead

/-- Digits with a zero before the point where there would be none. -/
theorem isWhole_take_padZeros (hdigits : ∀ c ∈ digits, c.isDigit = true)
    (hhead : digits.head? ≠ some '0') (places : Nat) :
    IsWhole ((padZeros (places + 1) digits).take
      ((padZeros (places + 1) digits).length - places)) := by
  have hlength := length_padZeros (places + 1) digits
  have hpadded := isDigit_padZeros (places + 1) digits hdigits
  generalize hcount : (padZeros (places + 1) digits).length - places = count
  refine ⟨?_, fun c hc => hpadded c (List.mem_of_mem_take hc), fun hzero => ?_⟩
  · rw [Ne, List.take_eq_nil_iff, ← List.length_eq_zero_iff]
    omega
  · -- A zero that is in front of other digits was put there, and is the only one before the point.
    by_cases hshort : digits.length ≤ places
    · rw [List.length_take]
      omega
    · have hself : padZeros (places + 1) digits = digits := by
        have hnone : places + 1 - digits.length = 0 := by omega
        rw [padZeros, hnone, List.replicate_zero, List.nil_append]
      rw [hself, List.head?_take, if_neg (by omega)] at hzero
      exact absurd hzero hhead

/-- Digits with the point before the last places. -/
theorem spells_places (hdigits : ∀ c ∈ digits, c.isDigit = true)
    (hhead : digits.head? ≠ some '0') {places : Nat} (hplaces : 0 < places) :
    ∃ numeral : Numeral, numeral.Spells
      ((padZeros (places + 1) digits).take ((padZeros (places + 1) digits).length - places) ++
        '.' :: (padZeros (places + 1) digits).drop ((padZeros (places + 1) digits).length - places))
      (valueOf digits) (0 - (places : Int)) := by
  have hwhole := isWhole_take_padZeros hdigits hhead places
  have hpadded := isDigit_padZeros (places + 1) digits hdigits
  have hvalue := valueOf_padZeros (places + 1) digits
  have hlength : places < (padZeros (places + 1) digits).length := by
    rw [length_padZeros]
    omega
  generalize padZeros (places + 1) digits = padded at *
  have hdrop : (padded.drop (padded.length - places)).length = places := by
    rw [List.length_drop]
    omega
  have hne : padded.drop (padded.length - places) ≠ [] := by
    intro hnil
    rw [hnil, List.length_nil] at hdrop
    omega
  have hspells := spells_point hwhole ⟨hne, fun c hc => hpadded c (List.mem_of_mem_drop hc)⟩
  rw [List.take_append_drop, hvalue, hdrop] at hspells
  exact hspells

end Whole

section Layout

variable {d : Decimal}

/-- A number is written with every digit at its place around the point, and with zeros up to the
point and one behind it if it is a whole number. -/
theorem spells_positional (h : 0 < d.digits) :
    ∃ numeral : Numeral, numeral.Spells (d.positional true)
      (d.digits * 10 ^ (d.exponent + 1).toNat) (min d.exponent (-1)) := by
  obtain ⟨hne, hdigits, -⟩ := isWhole_digitsOf d.digits
  have hhead := head?_digitsOf h
  unfold Decimal.positional
  dsimp only
  split
  next hsign =>
    obtain ⟨count, hcount⟩ := Int.eq_ofNat_of_zero_le hsign
    have hwhole := isWhole_append hne hdigits hhead (isDigit_zeros count)
    have hzeros : valueOf (digitsOf d.digits ++ List.replicate count '0' ++ ['0']) =
        d.digits * 10 ^ (count + 1) := by
      have hlast : ['0'] = List.replicate 1 '0' := rfl
      rw [hlast, valueOf_append_zeros, valueOf_append_zeros, valueOf_digitsOf]
      ring
    have hspells := spells_point hwhole isDigits_zero
    rw [hzeros] at hspells
    have hleast : min (count : Int) (-1) = -1 := by omega
    rw [hcount, hleast]
    exact hspells
  next hsign =>
    obtain ⟨places, hplaces⟩ : ∃ places : Nat, d.exponent = 0 - (places : Int) :=
      ⟨(-d.exponent).toNat, by omega⟩
    have hpos : 0 < places := by omega
    have hcount : (-(0 - (places : Int))).toNat = places := by omega
    have hnone : (0 - (places : Int) + 1).toNat = 0 := by omega
    have hleast : min (0 - (places : Int)) (-1) = 0 - (places : Int) := by omega
    have hspells := spells_places hdigits hhead hpos
    rw [valueOf_digitsOf] at hspells
    rw [hplaces, hcount, hnone, hleast, Nat.pow_zero, Nat.mul_one]
    exact hspells

/-- A number is written with one digit before the point and an exponent. -/
theorem spells_scientific (d : Decimal) (width : Nat) :
    ∃ numeral : Numeral, numeral.Spells (d.scientific width) d.digits d.exponent := by
  have hwhole := isWhole_digitsOf d.digits
  have hdigits := hwhole.isDigit
  have hvalueOf := valueOf_digitsOf d.digits
  have hleading : d.leadingExponent = d.exponent + ((digitsOf d.digits).length : Int) - 1 := rfl
  rw [← hvalueOf]
  unfold Decimal.scientific
  dsimp only
  split
  next first second rest hsplit =>
    rw [hsplit] at hdigits hleading ⊢
    have hfirst : IsWhole [first] := {
      ne_nil := List.cons_ne_nil _ _
      isDigit c hc := hdigits c (List.mem_singleton.1 hc ▸ List.mem_cons_self)
      alone _ := rfl }
    have hexponent : d.exponent = d.leadingExponent - ((second :: rest).length : Int) := by
      rw [hleading, List.length_cons]
      omega
    rw [hexponent]
    have hmore : IsDigits (second :: rest) :=
      ⟨List.cons_ne_nil _ _, fun c hc => hdigits c (List.mem_cons_of_mem _ hc)⟩
    exact spells_point_exponent hfirst hmore width d.leadingExponent
  next hshort =>
    -- A single digit has no point behind it.
    have hlength : (digitsOf d.digits).length = 1 := by
      obtain ⟨first, more, hsplit⟩ := List.exists_cons_of_ne_nil hwhole.ne_nil
      cases more with
      | nil => rw [hsplit, List.length_singleton]
      | cons second rest => exact absurd hsplit (hshort first second rest)
    have hexponent : d.exponent = d.leadingExponent := by
      rw [hleading, hlength]
      omega
    rw [hexponent]
    exact spells_exponent hwhole width d.leadingExponent

/-- The digits that are written of a decimal, and the exponent of the last one: all of them, or with
zeros up to the point and behind it if the number is small. -/
inductive IsWritten (layout : Decimal.Layout) (d : Decimal) : Nat → Int → Prop where
  | scientific : IsWritten layout d d.digits d.exponent
  | positional (h : d.leadingExponent ≤ layout.highest) :
    IsWritten layout d (d.digits * 10 ^ (d.exponent + 1).toNat) (min d.exponent (-1))

/-- What is written of a decimal stands for it. -/
theorem IsWritten.value_eq {layout : Decimal.Layout} {digits : Nat} {exponent : Int}
    (h : IsWritten layout d digits exponent) : (digits : ℚ) * 10 ^ exponent = d.value := by
  unfold Decimal.value
  cases h with
  | scientific => rfl
  | positional =>
    push_cast
    rw [mul_assoc, ← zpow_natCast, ← zpow_add₀ (by norm_num)]
    congr 2
    omega

/-- In a layout that keeps the point, a positive number is written as a fraction. -/
theorem spells_render {layout : Decimal.Layout} (hpoint : layout.keepsPoint = true)
    (h : 0 < d.digits) :
    ∃ (numeral : Numeral) (digits : Nat) (exponent : Int),
      IsWritten layout d digits exponent ∧
        numeral.Spells (Decimal.render layout d) digits exponent := by
  unfold Decimal.render
  split
  next hplaces =>
    rw [hpoint]
    obtain ⟨numeral, hspells⟩ := spells_positional h
    exact ⟨numeral, _, _, .positional hplaces.2, hspells⟩
  next =>
    obtain ⟨numeral, hspells⟩ := spells_scientific d layout.exponentWidth
    exact ⟨numeral, _, _, .scientific, hspells⟩

end Layout

/-! ## Finite numbers -/

open Binary64 (IsScaled Rounds ofMagnitude magnitudeOf infinityBits maxWord leadingBit)

namespace Numeral

variable {numeral : Numeral} {text : List Char} {digits : Nat} {exponent : Int}

/-- The number that the parts of a number as it is written make, with any sign. -/
def withSign (numeral : Numeral) (negative : Bool) : Binary64 :=
  ofMagnitude negative (ofParts numeral.parts.1 numeral.parts.2).magnitude

/-- A number that is written as a fraction is read as what its parts make, if that is finite. -/
theorem Spells.readNumber_eq (h : numeral.Spells text digits exponent)
    (hfinite : (ofParts numeral.parts.1 numeral.parts.2).magnitude < infinityBits)
    (negative : Bool) {rest : List Char} (hrest : EndsNumber rest) :
    readNumber ((if negative then ['-'] else []) ++ text ++ rest) =
      .ok (.float (numeral.withSign negative), rest) := by
  have hint : ({ numeral with negative } : Numeral).toInt? = none := toInt?_eq_none h.isFraction
  have hother : (numeral.withSign negative).magnitude ≠ infinityBits := by
    rw [withSign, Binary64.magnitude_ofMagnitude hfinite.le]
    exact hfinite.ne
  have hnumber : ({ numeral with negative } : Numeral).toNumber =
      .ok (.float (numeral.withSign negative)) := by
    unfold toNumber
    rw [hint]
    exact if_neg hother
  unfold readNumber
  rw [h.read negative rest hrest, ok_bind]
  dsimp only
  rw [hnumber]
  rfl

/-- A number as it is written stands for its digits and its exponent. -/
theorem Spells.value_eq (h : numeral.Spells text digits exponent) :
    numeral.value = digits * 10 ^ exponent := by
  unfold value
  rw [h.digits_eq, h.exponent_eq]

/-- Digits that fit are the parts, with their exponent. -/
theorem Spells.parts_eq (h : numeral.Spells text digits exponent) (hfits : digits ≤ maxWord) :
    numeral.parts = (digits, exponent) := by
  rw [Numeral.parts_eq (h.digits_eq.trans_le hfits), h.digits_eq, h.exponent_eq]

end Numeral

/-- The text of zero. -/
theorem spells_zero :
    ∃ numeral : Numeral, numeral.Spells (Decimal.positional true ⟨0, 0⟩) 0 (-1) :=
  spells_point (isWhole_digitsOf 0) isDigits_zero

section Greatest

variable {mantissa : Nat} {exponent : Int} {q : ℚ}

/-- What is rounded to a number below the greatest one lies below the middle between the two. -/
theorem le_greatestMiddle (hs : IsScaled mantissa exponent) (h : Rounds mantissa exponent q)
    (hless : ¬(mantissa = 2 * leadingBit - 1 ∧ exponent = 971)) : q ≤ greatestMiddle := by
  obtain ⟨-, hupper⟩ := abs_le.1 h.nearest.le
  have hgreatest := hs.greatest
  have hlt := hs.lt
  have hq : q ≤ (mantissa + 1 / 2) * 2 ^ exponent := by
    rw [Binary64.eq_div_mul q exponent]
    exact mul_le_mul_of_nonneg_right (by linarith) (by positivity)
  have hmiddle : (greatestMiddle : ℚ) = (2 ^ 54 - 3) * 2 ^ (970 : Int) := by
    have hfactor : ((2 ^ 54 - 3 : Nat) : ℚ) = 2 ^ 54 - 3 := by norm_num
    unfold greatestMiddle
    rw [Nat.cast_mul, Nat.cast_pow, hfactor, Nat.cast_ofNat, zpow_ofNat]
  have hbit : (leadingBit : ℚ) = 2 ^ 52 := by norm_num [leadingBit]
  rw [hmiddle]
  -- Below the greatest exponent any mantissa will do, and at this exponent all but the greatest.
  rcases hgreatest.lt_or_eq with hbelow | rfl
  · have hmantissa : (mantissa : ℚ) + 1 ≤ 2 * leadingBit := by exact_mod_cast hlt
    have hweight : (2 : ℚ) ^ exponent ≤ 2 ^ (970 : Int) :=
      zpow_le_zpow_right₀ one_le_two (by omega)
    calc q ≤ (mantissa + 1 / 2) * 2 ^ exponent := hq
      _ ≤ (2 ^ 54 - 3) * 2 ^ exponent :=
        mul_le_mul_of_nonneg_right (by rw [hbit] at hmantissa; linarith) (by positivity)
      _ ≤ (2 ^ 54 - 3) * 2 ^ (970 : Int) := mul_le_mul_of_nonneg_left hweight (by norm_num)
  · have hmantissa : (mantissa : ℚ) + 2 ≤ 2 * leadingBit := by
      have hmost : mantissa + 2 ≤ 2 * leadingBit := by omega
      exact_mod_cast hmost
    have hlast : (2 : ℚ) ^ (971 : Int) = 2 * 2 ^ (970 : Int) := by
      rw [← zpow_one_add₀ two_ne_zero]
      rfl
    calc q ≤ (mantissa + 1 / 2) * 2 ^ (971 : Int) := hq
      _ = (2 * mantissa + 1) * 2 ^ (970 : Int) := by
        rw [hlast]
        ring
      _ ≤ (2 ^ 54 - 3) * 2 ^ (970 : Int) :=
        mul_le_mul_of_nonneg_right (by rw [hbit] at hmantissa; linarith) (by positivity)

/-- The shortest decimal of the greatest number. -/
theorem shortest_greatest (tie : Decimal.Tie) :
    Decimal.shortest tie (2 * leadingBit - 1) 971 = ⟨17976931348623157, 292⟩ := by
  cases tie <;> decide +kernel

end Greatest

/-- Whether a decimal has so few digits that its text is read as the number nearest to it. -/
def IsShort (d : Decimal) : Prop :=
  d.digits * 10 ^ (d.exponent + 1).toNat < 2 ^ 53 ∧ -22 ≤ d.exponent

section Written

variable {d : Decimal} {layout : Decimal.Layout} {digits : Nat} {exponent : Int}

/-- What is written of a short decimal has few digits and a small exponent. -/
theorem IsWritten.few (h : IsWritten layout d digits exponent) (hd : 0 < d.digits)
    (hshort : IsShort d) : digits < 2 ^ 53 ∧ exponent.natAbs ≤ exactPower := by
  obtain ⟨hdigits, hexponent⟩ := hshort
  have hpower : 10 ^ (d.exponent + 1).toNat < 10 ^ 16 :=
    ((Nat.le_mul_of_pos_left _ hd).trans_lt hdigits).trans (by decide)
  have hmost := (Nat.pow_lt_pow_iff_right (by decide)).1 hpower
  unfold exactPower
  cases h with
  | scientific => exact ⟨(Nat.le_mul_of_pos_right _ (by positivity)).trans_lt hdigits, by omega⟩
  | positional => exact ⟨hdigits, by omega⟩

end Written

section

variable {layout : Decimal.Layout} {mantissa : Nat} {exponent : Int} {numeral : Numeral}
  {digits : Nat} {scale : Int} {text : List Char}

/-- The shortest decimal of a positive number has digits. -/
theorem shortest_digits_pos (hs : IsScaled mantissa exponent) (tie : Decimal.Tie) :
    0 < (Decimal.shortest tie mantissa exponent).digits := by
  refine Nat.pos_of_ne_zero fun hzero => ?_
  have hpos := (Decimal.rounds_shortest hs tie).pos hs
  rw [Decimal.value, hzero, Nat.cast_zero, zero_mul] at hpos
  exact lt_irrefl 0 hpos

/-- What is written of the shortest decimal of a number makes a finite number again. -/
theorem magnitude_parts_lt (hs : IsScaled mantissa exponent) (hhighest : layout.highest ≤ 15)
    (hwritten : IsWritten layout (Decimal.shortest layout.tie mantissa exponent) digits scale)
    (h : numeral.Spells text digits scale) :
    (ofParts numeral.parts.1 numeral.parts.2).magnitude < infinityBits := by
  by_cases hgreatest : mantissa = 2 * leadingBit - 1 ∧ exponent = 971
  · -- The greatest number is too large to be written positionally.
    obtain ⟨rfl, rfl⟩ := hgreatest
    rw [shortest_greatest] at hwritten
    obtain ⟨rfl, rfl⟩ : digits = 17976931348623157 ∧ scale = 292 := by
      cases hwritten with
      | scientific => exact ⟨rfl, rfl⟩
      | positional hplaces =>
        have hleading : Decimal.leadingExponent ⟨17976931348623157, 292⟩ = 308 := by decide
        omega
    rw [h.parts_eq (by decide)]
    decide +kernel
  · have hrounds := Decimal.rounds_shortest hs layout.tie
    have hle := Numeral.parts_le h.isDigit
    rw [h.value_eq, hwritten.value_eq] at hle
    exact magnitude_ofParts_lt numeral.parts_fst_le
      (hle.trans (le_greatestMiddle hs hrounds hgreatest))

/-- What is written of a short decimal makes the number that the decimal is rounded to. -/
theorem magnitude_parts_eq (hs : IsScaled mantissa exponent)
    (hwritten : IsWritten layout (Decimal.shortest layout.tie mantissa exponent) digits scale)
    (h : numeral.Spells text digits scale)
    (hshort : IsShort (Decimal.shortest layout.tie mantissa exponent)) :
    (ofParts numeral.parts.1 numeral.parts.2).magnitude = magnitudeOf mantissa exponent := by
  obtain ⟨hfew, hscale⟩ := hwritten.few (shortest_digits_pos hs layout.tie) hshort
  have hrounds := Decimal.rounds_shortest hs layout.tie
  rw [← hwritten.value_eq] at hrounds
  rw [h.parts_eq (by unfold maxWord; omega)]
  exact magnitude_ofParts_eq hfew hscale hs hrounds

end

/-- A finite number is read from its text as a finite number, and as itself if it is zero or its
shortest decimal is short. -/
theorem readNumber_renderFinite {layout : Decimal.Layout} (hpoint : layout.keepsPoint = true)
    (hhighest : layout.highest ≤ 15) {x : Binary64} {negative : Bool} {mantissa : Nat}
    {exponent : Int} (h : x.shape = .finite negative mantissa exponent) :
    ∃ y : Binary64, y.magnitude < infinityBits ∧
      (mantissa = 0 ∨ IsShort (Decimal.shortest layout.tie mantissa exponent) → y = x) ∧
      ∀ rest, EndsNumber rest →
        readNumber (Decimal.renderFinite layout negative mantissa exponent ++ rest) =
          .ok (.float y, rest) := by
  obtain ⟨hx, hscaled⟩ := Binary64.eq_of_shape h
  unfold Decimal.renderFinite
  -- Zero has a text of its own, and any other number is printed from its shortest digits.
  rcases hscaled with ⟨rfl, rfl⟩ | hs
  · obtain ⟨numeral, hspells⟩ := spells_zero
    have hzero : (ofParts numeral.parts.1 numeral.parts.2).magnitude = 0 := by
      rw [hspells.parts_eq (Nat.zero_le _)]
      decide +kernel
    have hfinite : (ofParts numeral.parts.1 numeral.parts.2).magnitude < infinityBits := by
      rw [hzero]
      decide
    rw [if_pos rfl, hpoint]
    refine ⟨numeral.withSign negative, ?_, fun _ => ?_, fun rest hrest =>
      hspells.readNumber_eq hfinite negative hrest⟩
    · rwa [Numeral.withSign, Binary64.magnitude_ofMagnitude hfinite.le]
    · rw [hx, Numeral.withSign, hzero]
      rfl
  · obtain ⟨numeral, digits, scale, hwritten, hspells⟩ :=
      spells_render hpoint (shortest_digits_pos hs layout.tie)
    have hfinite := magnitude_parts_lt hs hhighest hwritten hspells
    rw [if_neg hs.pos.ne']
    refine ⟨numeral.withSign negative, ?_, fun hshort => ?_, fun rest hrest =>
      hspells.readNumber_eq hfinite negative hrest⟩
    · rwa [Numeral.withSign, Binary64.magnitude_ofMagnitude hfinite.le]
    · rw [hx, Numeral.withSign,
        magnitude_parts_eq hs hwritten hspells (hshort.resolve_left hs.pos.ne')]

end MetricGateway.Json
