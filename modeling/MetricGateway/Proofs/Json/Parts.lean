import MetricGateway.Json.Token
import MetricGateway.Proofs.Decimal.Order

/-!
# Numbers from their parts

The digits of a number are read as one natural number as long as it fits 64 bits, and this number is
rounded before it is multiplied with a power of ten, or divided by one, and rounded again. What is
left out of the digits makes no number greater (`parts_le`). So a number below the greatest ones is
read as a finite number (`magnitude_ofParts_lt`), which is the nearest one if there are few digits
(`magnitude_ofParts_eq`).
-/

namespace MetricGateway.Json

open Binary64 Text

/-! ## Digits that count -/

section

variable {n : Nat} {digits : List Char}

/-- Digits behind a number weigh it, and add what they stand for. -/
theorem pow_mul_le_ofDigitChars (digits : List Char) (n : Nat) :
    10 ^ digits.length * n ≤ Nat.ofDigitChars 10 digits n := by
  rw [Nat.ofDigitChars_eq_ofDigitChars_zero]
  exact Nat.le_add_right _ _

/-- Digits behind a number do not make it less. -/
theorem le_ofDigitChars (digits : List Char) (n : Nat) : n ≤ Nat.ofDigitChars 10 digits n :=
  (Nat.le_mul_of_pos_left n (by positivity)).trans (pow_mul_le_ofDigitChars digits n)

/-- All digits are taken if the number that they make fits. -/
theorem accumulate_eq (h : Nat.ofDigitChars 10 digits n ≤ maxWord) :
    accumulate n digits = (Nat.ofDigitChars 10 digits n, []) := by
  induction digits generalizing n with
  | nil => rfl
  | cons c rest ih =>
    rw [Nat.ofDigitChars_cons] at h ⊢
    have hnext : 10 * n + (c.toNat - 48) ≤ maxWord := (le_ofDigitChars rest _).trans h
    unfold accumulate
    dsimp only
    rw [if_pos hnext]
    exact ih h

/-- Digits are taken from the front, and the first one that is left does not fit. -/
theorem exists_accumulate (h : n ≤ maxWord) (digits : List Char) :
    ∃ taken left, digits = taken ++ left ∧
      accumulate n digits = (Nat.ofDigitChars 10 taken n, left) ∧
      Nat.ofDigitChars 10 taken n ≤ maxWord ∧
      ∀ c ∈ left.head?, maxWord < 10 * Nat.ofDigitChars 10 taken n + (c.toNat - 48) := by
  induction digits generalizing n with
  | nil => exact ⟨[], [], rfl, rfl, h, nofun⟩
  | cons c rest ih =>
    unfold accumulate
    dsimp only
    by_cases hnext : 10 * n + (c.toNat - 48) ≤ maxWord
    · obtain ⟨taken, left, hsplit, heq, hfits, hleft⟩ := ih hnext
      rw [if_pos hnext]
      exact ⟨c :: taken, left, congrArg (c :: ·) hsplit, heq, hfits, hleft⟩
    · rw [if_neg hnext]
      refine ⟨[], c :: rest, rfl, rfl, h, fun d hd => ?_⟩
      obtain rfl := Option.some.inj hd
      exact Nat.not_le.1 hnext

end

namespace Numeral

variable (numeral : Numeral)

/-- What a number as it is written stands for, without its sign. -/
def value : ℚ :=
  valueOf (numeral.whole ++ numeral.fraction.getD []) *
    10 ^ (numeral.exponent.getD 0 - (numeral.fraction.getD []).length)

variable {numeral}

/-- If all digits together fit, none is left out. -/
theorem parts_eq (h : valueOf (numeral.whole ++ numeral.fraction.getD []) ≤ maxWord) :
    numeral.parts = (valueOf (numeral.whole ++ numeral.fraction.getD []),
      numeral.exponent.getD 0 - (numeral.fraction.getD []).length) := by
  unfold valueOf at h
  rw [Nat.ofDigitChars_append] at h
  have hwhole : Nat.ofDigitChars 10 numeral.whole 0 ≤ maxWord := (le_ofDigitChars _ _).trans h
  unfold parts valueOf
  rw [accumulate_eq hwhole]
  dsimp only
  rw [accumulate_eq h, Nat.ofDigitChars_append]
  simp

/-- Where a digit had no room, there is room for one other digit at most. -/
theorem eq_nil_of_full {n : Nat} {c first : Char} {more : List Char} (hc : c.isDigit = true)
    (hfull : maxWord < 10 * n + (c.toNat - 48))
    (hfits : Nat.ofDigitChars 10 (first :: more) n ≤ maxWord) : more = [] := by
  by_contra hmore
  obtain ⟨second, rest, rfl⟩ := List.exists_cons_of_ne_nil hmore
  have hnine : c.toNat ≤ 57 := (Char.isDigit_iff_toNat.1 hc).2
  rw [Nat.ofDigitChars_cons, Nat.ofDigitChars_cons] at hfits
  have hsecond := (le_ofDigitChars rest _).trans hfits
  unfold maxWord at hfull hsecond
  omega

/-- What is left out before the point weighs more than a digit behind it that is taken. -/
theorem mul_pow_le_ofDigitChars {n : Nat} {left taken leftBehind : List Char}
    (hdigits : ∀ c ∈ left, c.isDigit = true)
    (hleft : ∀ c ∈ left.head?, maxWord < 10 * n + (c.toNat - 48))
    (hfits : Nat.ofDigitChars 10 taken n ≤ maxWord) :
    Nat.ofDigitChars 10 taken n * 10 ^ (left.length + leftBehind.length) ≤
      Nat.ofDigitChars 10 (left ++ (taken ++ leftBehind)) n := by
  rw [Nat.mul_comm, ← List.length_append]
  cases left with
  | nil =>
    rw [List.nil_append, List.nil_append, Nat.ofDigitChars_append]
    exact pow_mul_le_ofDigitChars _ _
  | cons c left =>
    cases taken with
    | nil => exact pow_mul_le_ofDigitChars _ _
    | cons first more =>
      have hfull := hleft c rfl
      -- There is no room for a second digit, since there was none for the one that is left.
      obtain rfl := eq_nil_of_full (hdigits c List.mem_cons_self) hfull hfits
      rw [Nat.ofDigitChars_cons, Nat.ofDigitChars_nil] at hfits ⊢
      have hdigit : 10 * n + (first.toNat - '0'.toNat) ≤ 10 * n + (c.toNat - '0'.toNat) :=
        hfits.trans hfull.le
      have hlength : (c :: left ++ leftBehind).length =
          (left ++ ([first] ++ leftBehind)).length := by
        simp only [List.length_append, List.length_cons, List.length_nil]
        omega
      rw [hlength]
      change _ ≤ Nat.ofDigitChars 10 (c :: (left ++ ([first] ++ leftBehind))) n
      rw [Nat.ofDigitChars_cons]
      exact (Nat.mul_le_mul_left _ hdigit).trans (pow_mul_le_ofDigitChars _ _)

/-- The digits that count are taken from the front, before the point and then behind it. -/
theorem exists_parts (numeral : Numeral) : ∃ taken left takenBehind leftBehind,
    numeral.whole = taken ++ left ∧ numeral.fraction.getD [] = takenBehind ++ leftBehind ∧
      numeral.parts = (Nat.ofDigitChars 10 takenBehind (Nat.ofDigitChars 10 taken 0),
        numeral.exponent.getD 0 + left.length - takenBehind.length) ∧
      Nat.ofDigitChars 10 takenBehind (Nat.ofDigitChars 10 taken 0) ≤ maxWord ∧
      ∀ c ∈ left.head?, maxWord < 10 * Nat.ofDigitChars 10 taken 0 + (c.toNat - 48) := by
  obtain ⟨taken, left, hwhole, heq, hfits, hleft⟩ :=
    exists_accumulate (Nat.zero_le maxWord) numeral.whole
  obtain ⟨takenBehind, leftBehind, hfraction, heqBehind, hfitsBehind, -⟩ :=
    exists_accumulate hfits (numeral.fraction.getD [])
  have hplaces : (numeral.fraction.getD []).length - leftBehind.length = takenBehind.length := by
    rw [hfraction, List.length_append]
    omega
  refine ⟨taken, left, takenBehind, leftBehind, hwhole, hfraction, ?_, hfitsBehind, hleft⟩
  unfold parts
  rw [heq]
  dsimp only
  rw [heqBehind]
  dsimp only
  rw [hplaces]

/-- The digits that count fit. -/
theorem parts_fst_le (numeral : Numeral) : numeral.parts.1 ≤ maxWord := by
  obtain ⟨_, _, _, _, -, -, hparts, hfits, -⟩ := numeral.exists_parts
  rw [hparts]
  exact hfits

/-- What is left out makes no number greater. -/
theorem parts_le (h : ∀ c ∈ numeral.whole, c.isDigit = true) :
    (numeral.parts.1 : ℚ) * 10 ^ numeral.parts.2 ≤ numeral.value := by
  obtain ⟨taken, left, takenBehind, leftBehind, hwhole, hfraction, hparts, hfits, hleft⟩ :=
    numeral.exists_parts
  have hall : Nat.ofDigitChars 10 (left ++ (takenBehind ++ leftBehind))
      (Nat.ofDigitChars 10 taken 0) = valueOf (numeral.whole ++ numeral.fraction.getD []) := by
    unfold valueOf
    rw [← Nat.ofDigitChars_append, ← hfraction, ← List.append_assoc, ← hwhole]
  -- The digits that are left out count as zeros.
  have hdigits : Nat.ofDigitChars 10 takenBehind (Nat.ofDigitChars 10 taken 0) *
      10 ^ (left.length + leftBehind.length) ≤
        valueOf (numeral.whole ++ numeral.fraction.getD []) := by
    rw [← hall]
    exact mul_pow_le_ofDigitChars
      (fun c hc => h c (hwhole ▸ List.mem_append_right taken hc)) hleft hfits
  rw [hparts]
  unfold value
  rw [hfraction, List.length_append]
  rw [hfraction] at hdigits
  dsimp only
  have hweight : (10 : ℚ) ^ (numeral.exponent.getD 0 + left.length - takenBehind.length) =
      10 ^ (left.length + leftBehind.length) *
        10 ^ (numeral.exponent.getD 0 - (takenBehind.length + leftBehind.length : Nat)) := by
    rw [← zpow_natCast, ← zpow_add₀ (by norm_num)]
    congr 1
    push_cast
    omega
  rw [hweight, ← mul_assoc]
  refine mul_le_mul_of_nonneg_right ?_ (by positivity)
  exact_mod_cast hdigits

end Numeral

/-! ## Digits and powers of ten -/

/-- Digits are rounded to the nearest number. -/
theorem magnitude_digits (significand : Nat) :
    (ofDecimal false significand 0).magnitude = nearest significand := by
  have hnearest := nearestMagnitude_eq_nearest significand one_pos
  rw [Nat.cast_one, div_one] at hnearest
  unfold ofDecimal
  split
  next hzero =>
    rw [hzero]
    rfl
  next =>
    rw [if_neg (by decide), if_neg (by omega), ← hnearest,
      magnitude_ofMagnitude (nearestMagnitude_le _ _)]
    exact congrArg (nearestMagnitude · 1) (Nat.mul_one significand)

/-- More digits make no smaller number. -/
theorem magnitude_digits_mono {significand other : Nat} (h : significand ≤ other) :
    (ofDecimal false significand 0).magnitude ≤ (ofDecimal false other 0).magnitude := by
  rw [magnitude_digits, magnitude_digits]
  exact nearest_mono (Nat.cast_nonneg _) (Nat.cast_le.2 h)

/-- Digits that fit 64 bits are a finite number. -/
theorem magnitude_digits_lt {significand : Nat} (h : significand ≤ maxWord) :
    (ofDecimal false significand 0).magnitude < infinityBits :=
  (magnitude_digits_mono h).trans_lt (by decide +kernel)

/-- The powers of ten are finite numbers, none of which is below one. -/
theorem magnitude_powerOfTen : ∀ exponent ≤ maxPower,
    (powerOfTen 0).magnitude ≤ (powerOfTen exponent).magnitude ∧
      (powerOfTen exponent).magnitude < infinityBits := by
  decide +kernel

/-- No power of ten is below one. -/
theorem one_le_size_powerOfTen {exponent : Nat} (h : exponent ≤ maxPower) :
    1 ≤ (powerOfTen exponent).size := by
  have hone : (powerOfTen 0).size = 1 := by
    have hshape : (powerOfTen 0).shape = .finite false leadingBit (-52) := by decide +kernel
    rw [size_of_shape hshape, cast_leadingBit, ← zpow_add₀ two_ne_zero]
    rfl
  have hfinite := (magnitude_powerOfTen 0 (Nat.zero_le _)).2
  obtain ⟨hle, hlt⟩ := magnitude_powerOfTen exponent h
  exact hone.ge.trans (size_le_size hfinite hlt hle)

/-- Dividing again and again makes no number greater. -/
theorem magnitude_shrink_le (times : Nat) {x : Binary64} (h : x.magnitude < infinityBits) :
    (shrink times x).magnitude ≤ x.magnitude := by
  induction times generalizing x with
  | zero => exact le_rfl
  | succ times ih =>
    rw [shrink]
    split
    · exact le_rfl
    · have hle := magnitude_dividedBy_le h (magnitude_powerOfTen maxPower le_rfl).2
        (one_le_size_powerOfTen le_rfl)
      exact (ih (hle.trans_lt h)).trans hle

section Parts

variable {significand : Nat} {exponent : Int}

/-- The last step of a division is one by a power of ten that is a number. -/
theorem lastPlaces_le (exponent : Int) :
    (-exponent).toNat - maxPower * (((-exponent).toNat - 1) / maxPower) ≤ maxPower := by
  unfold maxPower
  omega

/-- Digits with a negative exponent make no number greater than the digits. -/
theorem magnitude_ofParts_of_neg (h : significand ≤ maxWord) (hsign : exponent < 0) :
    (ofParts significand exponent).magnitude ≤ (ofDecimal false significand 0).magnitude := by
  have hshrink := magnitude_shrink_le (((-exponent).toNat - 1) / maxPower) (magnitude_digits_lt h)
  have hlast := lastPlaces_le exponent
  unfold ofParts
  dsimp only
  rw [if_neg (by omega)]
  exact (magnitude_dividedBy_le (hshrink.trans_lt (magnitude_digits_lt h))
    (magnitude_powerOfTen _ hlast).2 (one_le_size_powerOfTen hlast)).trans hshrink

/-- With a positive exponent, digits are multiplied with a power of ten. -/
theorem ofParts_of_nonneg (hsign : 0 ≤ exponent) (hmost : exponent ≤ maxPower) :
    ofParts significand exponent =
      (ofDecimal false significand 0).times (powerOfTen exponent.toNat) := by
  unfold ofParts
  dsimp only
  rw [if_pos hsign, if_pos hmost]

/-- Parts make no number beyond infinity. -/
theorem magnitude_ofParts_le (h : significand ≤ maxWord) (exponent : Int) :
    (ofParts significand exponent).magnitude ≤ infinityBits := by
  have hdigits := magnitude_digits_lt h
  rcases Int.lt_or_le exponent 0 with hneg | hsign
  · exact ((magnitude_ofParts_of_neg h hneg).trans_lt hdigits).le
  by_cases hmost : exponent ≤ maxPower
  · have hpower := (magnitude_powerOfTen exponent.toNat (by omega)).2
    rw [ofParts_of_nonneg hsign hmost, magnitude_times hdigits hpower]
    exact nearest_le _
  · unfold ofParts
    dsimp only
    rw [if_pos hsign, if_neg hmost]
    split
    · exact hdigits.le
    · exact (magnitude_ofMagnitude le_rfl).le

/-- The middle between the two greatest numbers. -/
def greatestMiddle : Nat := (2 ^ 54 - 3) * 2 ^ 970

/-- The greatest digits that go with a power of ten, if the number that is written lies below the
middle between the two greatest ones. -/
def greatestDigits (exponent : Nat) : Nat := min maxWord (greatestMiddle / 10 ^ exponent)

/-- Even the greatest digits make a finite number. -/
theorem magnitude_greatestDigits : ∀ exponent ≤ maxPower,
    ((ofDecimal false (greatestDigits exponent) 0).times (powerOfTen exponent)).magnitude <
      infinityBits := by
  decide +kernel

/-- Parts that stand for a number below the middle between the two greatest ones make a finite
number, however often it is rounded. -/
theorem magnitude_ofParts_lt (h : significand ≤ maxWord)
    (hless : (significand : ℚ) * 10 ^ exponent ≤ greatestMiddle) :
    (ofParts significand exponent).magnitude < infinityBits := by
  have hdigits := magnitude_digits_lt h
  rcases Int.lt_or_le exponent 0 with hneg | hsign
  · exact (magnitude_ofParts_of_neg h hneg).trans_lt hdigits
  obtain ⟨power, rfl⟩ := Int.eq_ofNat_of_zero_le hsign
  have hproduct : significand * 10 ^ power ≤ greatestMiddle := by
    rw [zpow_natCast] at hless
    exact_mod_cast hless
  by_cases hmost : power ≤ maxPower
  · -- Rounding is monotone, so the greatest significand to the power bounds all others.
    have hgreatest : significand ≤ greatestDigits power :=
      le_min h ((Nat.le_div_iff_mul_le (by positivity)).2 hproduct)
    have hfits : greatestDigits power ≤ maxWord := min_le_left _ _
    rw [ofParts_of_nonneg hsign (by exact_mod_cast hmost), Int.toNat_natCast]
    exact (magnitude_times_le (magnitude_digits_lt hfits) (magnitude_powerOfTen power hmost).2
      (magnitude_digits_mono hgreatest)).trans_lt (magnitude_greatestDigits power hmost)
  · -- Beyond the powers of ten that are numbers, there are no digits but zero.
    have hzero : significand = 0 := by
      by_contra hne
      have hpower : 10 ^ (maxPower + 1) ≤ 10 ^ power := Nat.pow_le_pow_right (by decide) (by omega)
      have hone : 10 ^ power ≤ significand * 10 ^ power :=
        Nat.le_mul_of_pos_left _ (Nat.pos_of_ne_zero hne)
      have hgreat : greatestMiddle < 10 ^ (maxPower + 1) := by decide +kernel
      omega
    unfold ofParts
    dsimp only
    rw [if_pos hsign, if_neg (by exact_mod_cast hmost), if_pos hzero]
    exact hdigits

end Parts

/-! ## Few digits -/

/-- A natural number with at most 53 bits before its zeros is a number of the format. -/
theorem exists_isScaled {n : Nat} (hn : 0 < n) (hmost : n.log2 ≤ 1000)
    (hzeros : n % 2 ^ (n.log2 - 52) = 0) :
    ∃ mantissa exponent, IsScaled mantissa exponent ∧ (mantissa : ℚ) * 2 ^ exponent = n := by
  have hlow := Nat.log2_self_le hn.ne'
  have hhigh := Nat.lt_log2_self (n := n)
  generalize n.log2 = bits at *
  -- Few bits are shifted up to the leading one, and of many the zeros at the end are taken off.
  rcases Nat.le_total bits 52 with hfew | hmany
  · have hleading : leadingBit = 2 ^ bits * 2 ^ (52 - bits) := by
      rw [← Nat.pow_add, Nat.add_sub_cancel' hfew]
      rfl
    have hpow : 0 < 2 ^ (52 - bits) := by positivity
    have hle : leadingBit ≤ n * 2 ^ (52 - bits) := by
      rw [hleading]
      exact Nat.mul_le_mul_right _ hlow
    have hlt : n * 2 ^ (52 - bits) < 2 * leadingBit := by
      have htwice : 2 * leadingBit = 2 ^ (bits + 1) * 2 ^ (52 - bits) := by
        rw [hleading, Nat.pow_succ]
        ring
      rw [htwice]
      exact Nat.mul_lt_mul_of_pos_right hhigh hpow
    refine ⟨n * 2 ^ (52 - bits), -(52 - bits : Nat),
      ⟨by positivity, hlt, by omega, by omega, .inl hle⟩, ?_⟩
    rw [zpow_neg, zpow_natCast]
    push_cast
    field_simp
  · obtain ⟨mantissa, rfl⟩ := Nat.dvd_of_mod_eq_zero hzeros
    have hbits : 2 ^ bits = 2 ^ (bits - 52) * leadingBit := by
      have hleading : leadingBit = 2 ^ 52 := rfl
      rw [hleading, ← Nat.pow_add, Nat.sub_add_cancel hmany]
    have hpow : 0 < 2 ^ (bits - 52) := by positivity
    rw [hbits] at hlow
    rw [Nat.pow_succ, hbits, Nat.mul_assoc] at hhigh
    have hle := Nat.le_of_mul_le_mul_left hlow hpow
    have hlt := Nat.lt_of_mul_lt_mul_left hhigh
    refine ⟨mantissa, (bits - 52 : Nat), ⟨by unfold leadingBit at hle; omega, by omega, by omega,
      by omega, .inl hle⟩, ?_⟩
    rw [zpow_natCast]
    push_cast
    ring

/-- A decimal that stands for a number of the format is this number. -/
theorem size_ofDecimal {digits n : Nat} {scale : Int} (hn : 0 < n) (hmost : n.log2 ≤ 1000)
    (hzeros : n % 2 ^ (n.log2 - 52) = 0) (hvalue : (digits : ℚ) * 10 ^ scale = n) :
    (ofDecimal false digits scale).magnitude < infinityBits ∧
      (ofDecimal false digits scale).size = n := by
  obtain ⟨mantissa, exponent, hs, hsize⟩ := exists_isScaled hn hmost hzeros
  have hrounds : Rounds mantissa exponent (digits * 10 ^ scale) := by
    rw [hvalue, ← hsize]
    exact rounds_self mantissa exponent
  rw [ofDecimal_of_rounds hs hrounds, magnitude_ofMagnitude hs.magnitudeOf_lt.le,
    size_ofMagnitude hs, hsize]
  exact ⟨hs.magnitudeOf_lt, rfl⟩

/-- The greatest exponent of a power of ten that is a number of the format itself. -/
def exactPower : Nat := 22

/-- Up to there, no power of ten is rounded. -/
theorem size_powerOfTen {exponent : Nat} (h : exponent ≤ exactPower) :
    (powerOfTen exponent).size = 10 ^ exponent := by
  have hbits : ∀ exponent ≤ exactPower, (10 ^ exponent).log2 ≤ 1000 ∧
      10 ^ exponent % 2 ^ ((10 ^ exponent).log2 - 52) = 0 := by decide +kernel
  obtain ⟨hmost, hzeros⟩ := hbits exponent h
  have hvalue : ((1 : Nat) : ℚ) * 10 ^ (exponent : Int) = (10 ^ exponent : Nat) := by
    rw [Nat.cast_one, one_mul, zpow_natCast]
    push_cast
    rfl
  have hsize := (size_ofDecimal (by positivity) hmost hzeros hvalue).2
  rw [powerOfTen, hsize]
  push_cast
  rfl

/-- Parts with few digits and a small exponent make the nearest number, since only the last step
rounds. -/
theorem magnitude_ofParts_eq {significand : Nat} {scale : Int} {mantissa : Nat} {exponent : Int}
    (hfew : significand < 2 ^ 53) (hscale : scale.natAbs ≤ exactPower)
    (hs : IsScaled mantissa exponent) (h : Rounds mantissa exponent (significand * 10 ^ scale)) :
    (ofParts significand scale).magnitude = magnitudeOf mantissa exponent := by
  have hpos : 0 < significand := by
    refine Nat.pos_of_ne_zero fun hzero => ?_
    have hvalue := h.pos hs
    rw [hzero, Nat.cast_zero, zero_mul] at hvalue
    exact lt_irrefl 0 hvalue
  have hbits : significand.log2 ≤ 52 := by
    have := (Nat.log2_lt hpos.ne').2 hfew
    omega
  obtain ⟨hfinite, hsize⟩ : (ofDecimal false significand 0).magnitude < infinityBits ∧
      (ofDecimal false significand 0).size = significand := by
    refine size_ofDecimal hpos (by omega) ?_ (by rw [zpow_zero, mul_one])
    rw [Nat.sub_eq_zero_of_le hbits, Nat.pow_zero, Nat.mod_one]
  -- Neither the digits nor the power of ten is rounded, so there is one division or product.
  have hmost : exactPower ≤ maxPower := by decide
  rw [← nearest_eq hs h]
  rcases Int.lt_or_le scale 0 with hneg | hsign
  · obtain ⟨places, rfl⟩ : ∃ places : Nat, scale = -places := ⟨(-scale).toNat, by omega⟩
    have hplaces : places ≤ exactPower := by omega
    have hrounds : (places - 1) / maxPower = 0 := Nat.div_eq_of_lt (by omega)
    have hpower := (magnitude_powerOfTen places (hplaces.trans hmost)).2
    unfold ofParts
    dsimp only
    rw [if_neg (by omega), neg_neg, Int.toNat_natCast, hrounds, shrink, Nat.mul_zero, Nat.sub_zero]
    rw [magnitude_dividedBy hfinite hpower (by rw [size_powerOfTen hplaces]; positivity), hsize,
      size_powerOfTen hplaces, zpow_neg, zpow_natCast, div_eq_mul_inv]
  · obtain ⟨power, rfl⟩ := Int.eq_ofNat_of_zero_le hsign
    have hplaces : power ≤ exactPower := by omega
    have hpower := (magnitude_powerOfTen power (hplaces.trans hmost)).2
    rw [ofParts_of_nonneg hsign (by exact_mod_cast hplaces.trans hmost), Int.toNat_natCast,
      magnitude_times hfinite hpower, hsize, size_powerOfTen hplaces, zpow_natCast]

end MetricGateway.Json
