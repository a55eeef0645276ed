import Mathlib.Algebra.Order.Field.Power
import Mathlib.Data.Int.Log
import Mathlib.Data.Rat.Floor
import Mathlib.Tactic.FieldSimp
import Mathlib.Tactic.Linarith
import Mathlib.Tactic.NormNum
import Mathlib.Tactic.Positivity
import Mathlib.Tactic.Ring
import MetricGateway.Proofs.Decimal.Reading

/-!
# Which number a decimal is read as

The decimals that are read as a positive number `mantissa * 2 ^ exponent` lie around it, up to the
middle between it and its neighbours: `Rounds` is the interval of these, over the rationals. A
decimal in the interval is read as the number, however many digits it is written with
(`ofDecimal_of_rounds`).
-/

namespace MetricGateway

namespace Power

/-- No power has a denominator of zero. -/
theorem den_pos {base : Nat} (h : 0 < base) (exponent : Int) : 0 < den base exponent :=
  Nat.pow_pos h

/-- No power is zero. -/
theorem num_pos {base : Nat} (h : 0 < base) (exponent : Int) : 0 < num base exponent :=
  Nat.pow_pos h

/-- Numerator and denominator make the power. -/
theorem num_eq {base : Nat} (h : 0 < base) (exponent : Int) :
    (num base exponent : ℚ) = (base : ℚ) ^ exponent * den base exponent := by
  have hbase : (base : ℚ) ≠ 0 := by positivity
  unfold num den
  rcases Int.le_total 0 exponent with hsign | hsign
  · obtain ⟨size, rfl⟩ := Int.eq_ofNat_of_zero_le hsign
    simp
  · obtain ⟨size, hsize⟩ := Int.eq_ofNat_of_zero_le (Int.neg_nonneg_of_nonpos hsign)
    obtain rfl : exponent = -size := by omega
    simp [hbase]

/-- A power is compared with a quotient by natural numbers. -/
theorem le_div_iff {base : Nat} (h : 0 < base) (exponent : Int) {a b : Nat} (hb : 0 < b) :
    b * num base exponent ≤ a * den base exponent ↔ (base : ℚ) ^ exponent ≤ (a : ℚ) / b := by
  have hpos : (0 : ℚ) < b := by exact_mod_cast hb
  have hden : (0 : ℚ) < den base exponent := by exact_mod_cast den_pos h exponent
  rw [← Nat.cast_le (α := ℚ), le_div_iff₀ hpos]
  push_cast
  rw [num_eq h, ← mul_assoc, mul_le_mul_iff_left₀ hden, mul_comm (b : ℚ)]

/-- A quotient is scaled by a power. -/
theorem div_eq {base : Nat} (h : 0 < base) (exponent : Int) (a b : Nat) :
    ((a * den base exponent : Nat) : ℚ) / (b * num base exponent : Nat) =
      a / b / (base : ℚ) ^ exponent := by
  have hden : (den base exponent : ℚ) ≠ 0 := by exact_mod_cast (den_pos h exponent).ne'
  push_cast
  rw [num_eq h, ← mul_assoc, mul_div_mul_right _ _ hden, div_mul_eq_div_div]

/-- A multiple of a power is the quotient of its parts. -/
theorem mul_num_div_den {base : Nat} (h : 0 < base) (exponent : Int) (a b : Nat) :
    ((a * num base exponent : Nat) : ℚ) / (b * den base exponent : Nat) =
      a / b * (base : ℚ) ^ exponent := by
  have hden : (den base exponent : ℚ) ≠ 0 := by exact_mod_cast (den_pos h exponent).ne'
  push_cast
  rw [num_eq h, ← mul_assoc, mul_div_mul_right _ _ hden, mul_div_right_comm]

end Power

namespace Binary64

/-! ## Rounding to whole numbers -/

/-- The rationals that are rounded to a natural number: the halves beside it belong to it if it is
even. -/
def Nearest (n : Nat) (q : ℚ) : Prop := |q - n| < 1 / 2 ∨ n % 2 = 0 ∧ |q - n| = 1 / 2

/-- A number is rounded by a half at most. -/
theorem Nearest.le {n : Nat} {q : ℚ} (h : Nearest n q) : |q - n| ≤ 1 / 2 := by
  rcases h with h | ⟨-, h⟩
  · exact h.le
  · exact h.le

/-- What is not greater is not rounded to a greater number. -/
theorem Nearest.le_of_le {n n' : Nat} {q q' : ℚ} (h : Nearest n q) (h' : Nearest n' q')
    (hle : q ≤ q') : n ≤ n' := by
  by_contra hless
  have hnext : (n' : ℚ) + 1 ≤ n := by exact_mod_cast Nat.not_le.1 hless
  obtain ⟨hlower, -⟩ := abs_le.1 h.le
  obtain ⟨-, hupper⟩ := abs_le.1 h'.le
  -- Both lie halfway between two neighbours, of which only one is even.
  rcases h with hnear | ⟨heven, -⟩
  · linarith [(abs_lt.1 hnear).1]
  rcases h' with hnear | ⟨heven', -⟩
  · linarith [(abs_lt.1 hnear).2]
  have hsame : (n : ℚ) ≤ n' + 1 := by linarith
  norm_cast at hsame
  omega

/-- A natural number is rounded to itself. -/
theorem nearest_self (n : Nat) : Nearest n n := by
  rw [Nearest, sub_self, abs_zero]
  exact .inl (by norm_num)

/-- Dividing gives a natural number that the quotient is rounded to. -/
theorem nearest_divideToEven (num : Nat) {den : Nat} (h : 0 < den) :
    Nearest (divideToEven num den) ((num : ℚ) / den) := by
  have hpos : (0 : ℚ) < den := by exact_mod_cast h
  have hnonneg : (0 : ℚ) ≤ ((num % den : Nat) : ℚ) / den := by positivity
  have hless : ((num % den : Nat) : ℚ) / den < 1 := by
    rw [div_lt_one hpos]
    exact_mod_cast Nat.mod_lt num h
  have hsplit : (num : ℚ) / den = (num / den : Nat) + ((num % den : Nat) : ℚ) / den := by
    have hnum : (num : ℚ) = den * (num / den : Nat) + (num % den : Nat) := by
      exact_mod_cast (Nat.div_add_mod num den).symm
    field_simp
    linarith
  -- What is left over is compared with half of the divisor.
  have hhalf : (2 * (num % den) < den ↔ ((num % den : Nat) : ℚ) / den < 1 / 2) ∧
      (den < 2 * (num % den) ↔ 1 / 2 < ((num % den : Nat) : ℚ) / den) := by
    rw [div_lt_div_iff₀ hpos two_pos, div_lt_div_iff₀ two_pos hpos,
      mul_comm ((num % den : Nat) : ℚ),
      one_mul]
    constructor <;> norm_cast
  obtain ⟨hbelow, habove⟩ := hhalf
  rw [hsplit]
  unfold divideToEven
  dsimp only
  generalize num / den = low at *
  generalize ((num % den : Nat) : ℚ) / den = part at *
  split
  next hcompare =>
    have hlt := hbelow.1 (Nat.compare_eq_lt.1 hcompare)
    refine .inl (abs_lt.2 ?_)
    constructor <;> linarith
  next hcompare =>
    have hgt := habove.1 (Nat.compare_eq_gt.1 hcompare)
    refine .inl (abs_lt.2 ?_)
    push_cast
    constructor <;> linarith
  next hcompare =>
    have heq := Nat.compare_eq_eq.1 hcompare
    have hlower : ¬part < 1 / 2 := fun hlt => (hbelow.2 hlt).ne heq
    have hupper : ¬1 / 2 < part := fun hgt => (habove.2 hgt).ne heq.symm
    have hpart : part = 1 / 2 := le_antisymm (not_lt.1 hupper) (not_lt.1 hlower)
    split
    next heven =>
      refine .inr ⟨heven, ?_⟩
      rw [add_sub_cancel_left, hpart, abs_of_nonneg one_half_pos.le]
    next hodd =>
      refine .inr ⟨by omega, ?_⟩
      rw [abs_sub_comm, hpart, abs_of_nonneg] <;> push_cast <;> linarith

/-- There is only one natural number that a rational is rounded to. -/
theorem Nearest.unique {n n' : Nat} {q : ℚ} (h : Nearest n q) (h' : Nearest n' q) : n = n' :=
  Nat.le_antisymm (h.le_of_le h' le_rfl) (h'.le_of_le h le_rfl)

/-! ## Rounding to numbers of the format -/

section Log

variable {q : ℚ} {exponent : Int}

/-- The logarithm of a rational compares it with powers of two. -/
theorem le_log_iff (h : 0 < q) : exponent ≤ Int.log 2 q ↔ (2 : ℚ) ^ exponent ≤ q := by
  have hlog := Int.zpow_le_iff_le_log (R := ℚ) (b := 2) (x := exponent) (by decide) h
  rw [Nat.cast_ofNat] at hlog
  exact hlog.symm

/-- The same from above. -/
theorem log_lt_iff (h : 0 < q) : Int.log 2 q < exponent ↔ q < (2 : ℚ) ^ exponent := by
  rw [← not_le, le_log_iff h, not_le]

/-- Dividing by a power of two takes its exponent from the logarithm. -/
theorem div_lt_pow_iff (h : 0 < q) (bits : Int) :
    q / 2 ^ exponent < 2 ^ bits ↔ Int.log 2 q < exponent + bits := by
  rw [log_lt_iff h, div_lt_iff₀ (by positivity), ← zpow_add₀ two_ne_zero, add_comm]

/-- The same from below. -/
theorem pow_le_div_iff (h : 0 < q) (bits : Int) :
    2 ^ bits ≤ q / 2 ^ exponent ↔ exponent + bits ≤ Int.log 2 q := by
  rw [← not_lt, ← not_lt, div_lt_pow_iff h]

/-- The leading bit of a mantissa as a rational. -/
theorem cast_leadingBit : (leadingBit : ℚ) = 2 ^ (52 : Int) := by norm_num [leadingBit]

/-- What no mantissa reaches, as a rational. -/
theorem cast_two_mul_leadingBit : ((2 * leadingBit : Nat) : ℚ) = 2 ^ (53 : Int) := by
  norm_num [leadingBit]

end Log

/-- The exponent of the leading bit of a quotient. -/
theorem log_eq {num den : Nat} (hnum : num ≠ 0) (hden : 0 < den) :
    (if den * Power.num 2 ((num.log2 : Int) - den.log2) ≤
        num * Power.den 2 ((num.log2 : Int) - den.log2) then (num.log2 : Int) - den.log2
      else (num.log2 : Int) - den.log2 - 1) = Int.log 2 ((num : ℚ) / den) := by
  have hnumpos : (0 : ℚ) < num := by exact_mod_cast Nat.pos_of_ne_zero hnum
  have hdenpos : (0 : ℚ) < den := by exact_mod_cast hden
  have hpos : (0 : ℚ) < num / den := by positivity
  have hnumlow : (2 : ℚ) ^ (num.log2 : Int) ≤ num := by
    exact_mod_cast Nat.log2_self_le hnum
  have hnumhigh : (num : ℚ) < 2 ^ ((num.log2 : Int) + 1) := by
    exact_mod_cast Nat.lt_log2_self (n := num)
  have hdenlow : (2 : ℚ) ^ (den.log2 : Int) ≤ den := by
    exact_mod_cast Nat.log2_self_le hden.ne'
  have hdenhigh : (den : ℚ) < 2 ^ ((den.log2 : Int) + 1) := by
    exact_mod_cast Nat.lt_log2_self (n := den)
  generalize (num.log2 : Int) = i at *
  generalize (den.log2 : Int) = j at *
  have hbelow : (2 : ℚ) ^ (i - j - 1) < num / den := by
    rw [lt_div_iff₀ hdenpos]
    calc (2 : ℚ) ^ (i - j - 1) * den < 2 ^ (i - j - 1) * 2 ^ (j + 1) := by gcongr
      _ = 2 ^ i := by rw [← zpow_add₀ two_ne_zero]; congr 1; omega
      _ ≤ num := hnumlow
  have habove : (num : ℚ) / den < 2 ^ (i - j + 1) := by
    rw [div_lt_iff₀ hdenpos]
    calc (num : ℚ) < 2 ^ (i + 1) := hnumhigh
      _ = 2 ^ (i - j + 1) * 2 ^ j := by rw [← zpow_add₀ two_ne_zero]; congr 1; omega
      _ ≤ 2 ^ (i - j + 1) * den := by gcongr
  have hguess : den * Power.num 2 (i - j) ≤ num * Power.den 2 (i - j) ↔
      i - j ≤ Int.log 2 ((num : ℚ) / den) := by
    rw [Power.le_div_iff two_pos _ hden, Nat.cast_ofNat, le_log_iff hpos]
  -- The guess is one too large at most.
  have hleast := (le_log_iff hpos).2 hbelow.le
  have hmost := (log_lt_iff hpos).2 habove
  split
  next hle =>
    have := hguess.1 hle
    omega
  next hgt =>
    have := mt hguess.2 hgt
    omega

/-- The magnitude of a positive number. -/
def magnitudeOf (mantissa : Nat) (exponent : Int) : Nat :=
  (exponent + 1074).toNat * leadingBit + mantissa

/-- The weight of the last bit of what a positive rational is rounded to, as a power of two. -/
def lastExponent (q : ℚ) : Int := max (Int.log 2 q - 52) (-1074)

/-- A quotient is rounded at its last bit, and to infinity at most. -/
theorem exists_nearestMagnitude {num den : Nat} (hnum : num ≠ 0) (hden : 0 < den) :
    ∃ mantissa, Nearest mantissa ((num : ℚ) / den / 2 ^ lastExponent ((num : ℚ) / den)) ∧
      nearestMagnitude num den =
        min (magnitudeOf mantissa (lastExponent ((num : ℚ) / den))) infinityBits := by
  have hnearest (exponent : Int) :
      Nearest (divideToEven (num * Power.den 2 exponent) (den * Power.num 2 exponent))
        ((num : ℚ) / den / 2 ^ exponent) := by
    have hdivide := nearest_divideToEven (num * Power.den 2 exponent)
      (Nat.mul_pos hden (Power.num_pos two_pos exponent))
    rw [Power.div_eq two_pos] at hdivide
    exact hdivide
  refine ⟨_, hnearest _, ?_⟩
  unfold nearestMagnitude
  rw [if_neg hnum]
  dsimp only
  rw [log_eq hnum hden]
  rfl

/-- The mantissa and the exponent of a positive number of the format. The mantissa has its leading
bit unless the exponent is the least one. -/
structure IsScaled (mantissa : Nat) (exponent : Int) : Prop where
  pos : 0 < mantissa
  lt : mantissa < 2 * leadingBit
  least : -1074 ≤ exponent
  greatest : exponent ≤ 971
  leading : leadingBit ≤ mantissa ∨ exponent = -1074

/-- The rationals that are rounded to a positive number: those nearest to it, where the neighbour
below a power of two is half as far away as the one above it. -/
structure Rounds (mantissa : Nat) (exponent : Int) (q : ℚ) : Prop where
  nearest : Nearest mantissa (q / 2 ^ exponent)
  narrow : mantissa = leadingBit → -1074 < exponent →
    (mantissa : ℚ) - 1 / 4 ≤ q / 2 ^ exponent

/-- A number of the format is finite. -/
theorem IsScaled.magnitudeOf_lt {mantissa : Nat} {exponent : Int} (h : IsScaled mantissa exponent) :
    magnitudeOf mantissa exponent < infinityBits := by
  have hlt := h.lt
  have hgreatest := h.greatest
  unfold magnitudeOf
  unfold leadingBit at *
  unfold infinityBits
  omega

/-- A number itself is rounded to it. -/
theorem rounds_self (mantissa : Nat) (exponent : Int) :
    Rounds mantissa exponent (mantissa * 2 ^ exponent) := by
  have hscale : (mantissa : ℚ) * 2 ^ exponent / 2 ^ exponent = mantissa := by field_simp
  constructor
  · rw [hscale]
    exact nearest_self mantissa
  · intro _ _
    rw [hscale]
    linarith

section Rounds

variable {mantissa : Nat} {exponent : Int} {q : ℚ}

/-- A positive mantissa is at least one. -/
theorem IsScaled.one_le (hs : IsScaled mantissa exponent) : (1 : ℚ) ≤ mantissa := by
  exact_mod_cast hs.pos

/-- Scaling a rational and scaling it back leaves it. -/
theorem eq_div_mul (q : ℚ) (exponent : Int) : q = q / 2 ^ exponent * 2 ^ exponent := by
  field_simp

/-- What is rounded to a positive number is positive. -/
theorem Rounds.pos (h : Rounds mantissa exponent q) (hs : IsScaled mantissa exponent) : 0 < q := by
  have hone := hs.one_le
  obtain ⟨hlower, -⟩ := abs_le.1 h.nearest.le
  have hscaled : 0 < q / 2 ^ exponent := by linarith
  rw [eq_div_mul q exponent]
  positivity

/-- What is rounded to a number is below twice its leading bit. -/
theorem Rounds.log_lt (h : Rounds mantissa exponent q) (hs : IsScaled mantissa exponent) :
    Int.log 2 q < exponent + 53 := by
  have hlt : (mantissa : ℚ) + 1 ≤ (2 * leadingBit : Nat) := by exact_mod_cast hs.lt
  obtain ⟨-, hupper⟩ := abs_le.1 h.nearest.le
  rw [← div_lt_pow_iff (h.pos hs), ← cast_two_mul_leadingBit]
  linarith

/-- What is rounded to a number is at least half its last bit. -/
theorem Rounds.le_log (h : Rounds mantissa exponent q) (hs : IsScaled mantissa exponent) :
    exponent - 1 ≤ Int.log 2 q := by
  have hone := hs.one_le
  obtain ⟨hlower, -⟩ := abs_le.1 h.nearest.le
  rw [sub_eq_add_neg, ← pow_le_div_iff (h.pos hs), zpow_neg_one]
  linarith

/-- The exponent that is computed for a quotient is that of the number that it is rounded to. Just
below a power of two, it is one less. -/
theorem Rounds.log_cases (h : Rounds mantissa exponent q) (hs : IsScaled mantissa exponent) :
    max (Int.log 2 q - 52) (-1074) = exponent ∨
      mantissa = leadingBit ∧ max (Int.log 2 q - 52) (-1074) = exponent - 1 ∧
        q / 2 ^ exponent < leadingBit ∧ (leadingBit : ℚ) - 1 / 4 ≤ q / 2 ^ exponent := by
  have hq := h.pos hs
  have hlog := h.log_lt hs
  have hleast := hs.least
  by_cases hsame : max (Int.log 2 q - 52) (-1074) = exponent
  · exact .inl hsame
  -- The exponent is not the least one, so the mantissa has its leading bit.
  have hnotLeast : -1074 < exponent := by omega
  have hleading : leadingBit ≤ mantissa := by
    rcases hs.leading with hleading | hexponent
    · exact hleading
    · omega
  have hbelow : q / 2 ^ exponent < leadingBit := by
    rw [cast_leadingBit, div_lt_pow_iff hq]
    omega
  have hmantissa : mantissa = leadingBit := by
    obtain ⟨hlower, -⟩ := abs_le.1 h.nearest.le
    have hless : (mantissa : ℚ) < leadingBit + 1 := by linarith
    have : mantissa < leadingBit + 1 := by exact_mod_cast hless
    omega
  have hnarrow := h.narrow hmantissa hnotLeast
  rw [hmantissa] at hnarrow
  have hleast : exponent + 51 ≤ Int.log 2 q := by
    have hhalf : (2 : ℚ) ^ (51 : Int) ≤ leadingBit - 1 / 4 := by norm_num [leadingBit]
    rw [← pow_le_div_iff hq]
    exact hhalf.trans hnarrow
  have hexponent : max (Int.log 2 q - 52) (-1074) = exponent - 1 := by omega
  exact .inr ⟨hmantissa, hexponent, hbelow, hnarrow⟩

/-- A quotient that is rounded to a number has its magnitude. -/
theorem nearestMagnitude_eq (hs : IsScaled mantissa exponent) {num den : Nat} (hden : 0 < den)
    (h : Rounds mantissa exponent ((num : ℚ) / den)) :
    nearestMagnitude num den = magnitudeOf mantissa exponent := by
  have hnum : num ≠ 0 := by
    rintro rfl
    have := h.pos hs
    norm_num at this
  have hfinite := hs.magnitudeOf_lt
  obtain ⟨found, hfound, hmagnitude⟩ := exists_nearestMagnitude hnum hden
  rw [hmagnitude]
  rcases h.log_cases hs with hsame | ⟨rfl, hless, hbelow, hnarrow⟩
  · -- The same bit is the last one, and to it the nearest mantissa is unique.
    rw [lastExponent, hsame] at hfound ⊢
    rw [hfound.unique h.nearest]
    exact Nat.min_eq_left hfinite.le
  · -- Below the power of two the quotient is rounded up to it, which carries into the exponent.
    have htwice : (num : ℚ) / den / 2 ^ (exponent - 1) = 2 * (num / den / 2 ^ exponent) := by
      rw [zpow_sub_one₀ two_ne_zero]
      field_simp
    have hcarry : Nearest (2 * leadingBit) ((num : ℚ) / den / 2 ^ (exponent - 1)) := by
      have hle : |(num : ℚ) / den / 2 ^ (exponent - 1) - (2 * leadingBit : Nat)| ≤ 1 / 2 := by
        rw [htwice, abs_le]
        push_cast
        constructor <;> linarith
      exact hle.lt_or_eq.imp_right fun heq => ⟨by decide, heq⟩
    rw [lastExponent, hless] at hfound ⊢
    rw [hfound.unique hcarry]
    have hcarried : (exponent - 1 + 1074).toNat * leadingBit + 2 * leadingBit =
        magnitudeOf leadingBit exponent := by
      have hleast := hs.least
      have hnext : (exponent + 1074).toNat = (exponent - 1 + 1074).toNat + 1 := by omega
      rw [magnitudeOf, hnext, Nat.add_mul]
      omega
    rw [magnitudeOf, hcarried]
    exact Nat.min_eq_left hfinite.le

end Rounds

/-! ## Reading decimals -/

/-- A digit is worth at least three bits. -/
theorem pow_two_le_pow_ten {scale : Int} (h : 0 ≤ scale) : (2 : ℚ) ^ (3 * scale) ≤ 10 ^ scale := by
  rw [zpow_mul]
  exact zpow_le_zpow_left₀ h (by norm_num) (by norm_num)

section Scale

variable {digits : Nat} {scale : Int}

/-- The bits of a decimal with zeros at its end. -/
theorem le_log_decimal (h : digits ≠ 0) (hscale : 0 ≤ scale) :
    3 * scale ≤ Int.log 2 ((digits : ℚ) * 10 ^ scale) := by
  have hone : (1 : ℚ) ≤ digits := by exact_mod_cast Nat.pos_of_ne_zero h
  have hpos : (0 : ℚ) < digits * 10 ^ scale := by positivity
  rw [le_log_iff hpos]
  calc (2 : ℚ) ^ (3 * scale) ≤ 10 ^ scale := pow_two_le_pow_ten hscale
    _ ≤ digits * 10 ^ scale := le_mul_of_one_le_left (by positivity) hone

/-- The bits of a decimal with digits behind its point. -/
theorem log_decimal_le (h : digits ≠ 0) (hscale : scale ≤ 0) :
    Int.log 2 ((digits : ℚ) * 10 ^ scale) ≤ digits.log2 + 3 * scale := by
  have hone : (1 : ℚ) ≤ digits := by exact_mod_cast Nat.pos_of_ne_zero h
  have hpos : (0 : ℚ) < digits * 10 ^ scale := by positivity
  have hbits : (digits : ℚ) < 2 ^ ((digits.log2 : Int) + 1) := by
    exact_mod_cast Nat.lt_log2_self (n := digits)
  have hinverse : (10 : ℚ) ^ scale ≤ 2 ^ (3 * scale) := by
    have hle : (2 : ℚ) ^ (3 * -scale) ≤ 10 ^ (-scale) := pow_two_le_pow_ten (by omega)
    rw [mul_neg, zpow_neg, zpow_neg] at hle
    exact (inv_le_inv₀ (by positivity) (by positivity)).1 hle
  have hlt : (digits : ℚ) * 10 ^ scale < 2 ^ ((digits.log2 : Int) + 1 + 3 * scale) := by
    calc (digits : ℚ) * 10 ^ scale < 2 ^ ((digits.log2 : Int) + 1) * 10 ^ scale := by gcongr
      _ ≤ 2 ^ ((digits.log2 : Int) + 1) * 2 ^ (3 * scale) := by gcongr
      _ = 2 ^ ((digits.log2 : Int) + 1 + 3 * scale) := (zpow_add₀ two_ne_zero _ _).symm
  rw [← log_lt_iff hpos] at hlt
  omega

/-- A decimal that is rounded to a number is read as the number. -/
theorem ofDecimal_of_rounds {mantissa : Nat} {exponent : Int} (hs : IsScaled mantissa exponent)
    (h : Rounds mantissa exponent (digits * 10 ^ scale)) (negative : Bool) :
    ofDecimal negative digits scale = ofMagnitude negative (magnitudeOf mantissa exponent) := by
  have hdigits : digits ≠ 0 := by
    rintro rfl
    have hpos := h.pos hs
    norm_num at hpos
  -- The exponents that are answered without computing the power do not occur.
  have hlarge : ¬400 < scale := by
    intro hscale
    have hleast := le_log_decimal hdigits (by omega : 0 ≤ scale)
    have hlog := h.log_lt hs
    have hgreatest := hs.greatest
    omega
  have hsmall : ¬(digits.log2 : Int) + 1100 < 3 * -scale := by
    intro hscale
    have hmost := log_decimal_le hdigits (by omega : scale ≤ 0)
    have hlog := h.le_log hs
    have hleast := hs.least
    omega
  have hquotient : ((digits * Power.num 10 scale : Nat) : ℚ) / (Power.den 10 scale : Nat) =
      digits * 10 ^ scale := by
    have hpower := Power.mul_num_div_den (show 0 < 10 by decide) scale digits 1
    rwa [Nat.one_mul, Nat.cast_one, div_one, Nat.cast_ofNat] at hpower
  unfold ofDecimal
  rw [if_neg hdigits, if_neg hlarge, if_neg hsmall,
    nearestMagnitude_eq hs (Power.den_pos (by decide) scale) (hquotient ▸ h)]

end Scale

/-! ## Numbers as they are stored -/

/-- A number is its sign and its magnitude. -/
theorem eq_ofMagnitude (x : Binary64) : x = ofMagnitude x.isNegative x.magnitude := by
  obtain ⟨bits⟩ := x
  have hlt := bits.toNat_lt
  have hbits : (if signBit ≤ bits.toNat then signBit + bits.toNat % signBit
      else bits.toNat % signBit) = bits.toNat := by
    unfold signBit
    split <;> omega
  unfold ofMagnitude isNegative magnitude
  simp only [decide_eq_true_eq]
  rw [hbits, UInt64.ofNat_toNat]

/-- A finite number is zero or a positive number of the format, with a sign. -/
theorem eq_of_shape {x : Binary64} {negative : Bool} {mantissa : Nat} {exponent : Int}
    (h : x.shape = .finite negative mantissa exponent) :
    x = ofMagnitude negative (magnitudeOf mantissa exponent) ∧
      (mantissa = 0 ∧ exponent = -1074 ∨ IsScaled mantissa exponent) := by
  have hx := eq_ofMagnitude x
  have hmagnitude : x.magnitude < signBit := Nat.mod_lt _ (by decide)
  unfold shape at h
  dsimp only at h
  generalize x.magnitude = magnitude at *
  have hbit : leadingBit = 0x10000000000000 := rfl
  rw [hbit] at h
  unfold signBit at hmagnitude
  split at h
  · split at h <;> cases h
  next hfield =>
  split at h
  next hzero =>
    -- A subnormal number has no leading bit.
    cases h
    have heq : magnitudeOf (magnitude % 0x10000000000000) (-1074) = magnitude := by
      unfold magnitudeOf leadingBit
      omega
    refine ⟨heq.symm ▸ hx, ?_⟩
    rcases Nat.eq_zero_or_pos (magnitude % 0x10000000000000) with hnone | hpos
    · exact .inl ⟨hnone, rfl⟩
    · exact .inr ⟨hpos, by omega, by omega, by omega, .inr rfl⟩
  next hnonzero =>
    -- The leading bit of any other number is not stored.
    cases h
    have heq : magnitudeOf (0x10000000000000 + magnitude % 0x10000000000000)
        ((magnitude / 0x10000000000000 : Nat) - 1075) = magnitude := by
      unfold magnitudeOf leadingBit
      omega
    refine ⟨heq.symm ▸ hx, .inr ⟨?_, ?_, ?_, ?_, .inl ?_⟩⟩
    all_goals omega

/-- Below infinity, a magnitude is that of a finite number. -/
theorem exists_shape_finite {x : Binary64} (h : x.magnitude < infinityBits) :
    ∃ negative mantissa exponent, x.shape = .finite negative mantissa exponent := by
  have hfield : x.magnitude / leadingBit ≠ 2047 := by
    unfold infinityBits at h
    unfold leadingBit
    omega
  unfold shape
  dsimp only
  rw [if_neg hfield]
  split <;> exact ⟨_, _, _, rfl⟩

end Binary64

end MetricGateway
