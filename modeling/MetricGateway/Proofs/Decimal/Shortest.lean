import MetricGateway.Decimal.Shortest
import MetricGateway.Proofs.Decimal.Rounding

/-!
# The shortest decimal reads back

Whatever grid the search for the shortest decimal of a number ends on, and whether it ends on one
at all, the decimal lies in the interval that is rounded to the number (`rounds_shortest`). Taking
zeros from its end changes its digits, but not its value (`value_stripZeros`).
-/

namespace MetricGateway.Decimal

open Binary64 (IsScaled Rounds Nearest leadingBit)

/-- What a decimal stands for. -/
def value (d : Decimal) : ℚ := d.digits * 10 ^ d.exponent

section Compare

variable {a b : Nat} {i j : Int}

/-- Comparing by natural numbers compares the scaled numbers. -/
theorem compareScaled_spec :
    (compareScaled a i b j = .lt ↔ (a : ℚ) * 10 ^ i < b * 2 ^ j) ∧
      (compareScaled a i b j = .eq ↔ (a : ℚ) * 10 ^ i = b * 2 ^ j) ∧
      (compareScaled a i b j = .gt ↔ (b : ℚ) * 2 ^ j < a * 10 ^ i) := by
  have hten : (0 : ℚ) < Power.den 10 i := by exact_mod_cast Power.den_pos (by decide) i
  have htwo : (0 : ℚ) < Power.den 2 j := by exact_mod_cast Power.den_pos (by decide) j
  have hden : (0 : ℚ) < Power.den 10 i * Power.den 2 j := by positivity
  -- Multiplied by both denominators, the two sides are natural numbers.
  have hleft : ((a * Power.num 10 i * Power.den 2 j : Nat) : ℚ) =
      a * 10 ^ i * (Power.den 10 i * Power.den 2 j) := by
    push_cast
    rw [Power.num_eq (by decide)]
    push_cast
    ring
  have hright : ((b * Power.num 2 j * Power.den 10 i : Nat) : ℚ) =
      b * 2 ^ j * (Power.den 10 i * Power.den 2 j) := by
    push_cast
    rw [Power.num_eq (by decide)]
    push_cast
    ring
  unfold compareScaled
  refine ⟨?_, ?_, ?_⟩
  · rw [Nat.compare_eq_lt, ← Nat.cast_lt (α := ℚ), hleft, hright, mul_lt_mul_iff_left₀ hden]
  · rw [Nat.compare_eq_eq, ← Nat.cast_inj (R := ℚ), hleft, hright, mul_left_inj' hden.ne']
  · rw [Nat.compare_eq_gt, ← Nat.cast_lt (α := ℚ), hleft, hright, mul_lt_mul_iff_left₀ hden]

end Compare

variable {mantissa : Nat} {exponent : Int}

/-- The ends of the interval are compared in quarters of the last bit. -/
theorem compareScaled_quarter {n : Nat} {grid : Int} {q : ℚ}
    (h : (n : ℚ) * 10 ^ grid = q * 2 ^ exponent) (c : Nat) :
    (compareScaled n grid c (exponent - 2) = .lt ↔ 4 * q < c) ∧
      (compareScaled n grid c (exponent - 2) = .eq ↔ 4 * q = c) ∧
      (compareScaled n grid c (exponent - 2) = .gt ↔ c < 4 * q) := by
  obtain ⟨hlt, heq, hgt⟩ := @compareScaled_spec n c grid (exponent - 2)
  have hpos : (0 : ℚ) < 2 ^ (exponent - 2) := by positivity
  have hquarter : (n : ℚ) * 10 ^ grid = 4 * q * 2 ^ (exponent - 2) := by
    have hfour : (4 : ℚ) = 2 ^ (2 : Int) := by norm_num
    rw [h, hfour, mul_comm _ q, mul_assoc, ← zpow_add₀ two_ne_zero]
    congr 2
    omega
  rw [hlt, heq, hgt, hquarter, mul_lt_mul_iff_left₀ hpos, mul_left_inj' hpos.ne',
    mul_lt_mul_iff_left₀ hpos]
  exact ⟨Iff.rfl, Iff.rfl, Iff.rfl⟩

/-- The lower end of the interval around a number, in quarters of its last bit. -/
def lowEnd (mantissa : Nat) (exponent : Int) : ℚ :=
  if mantissa = leadingBit ∧ -1074 < exponent then 4 * mantissa - 1 else 4 * mantissa - 2

/-- The lower end is at most half of the last bit away. -/
theorem le_lowEnd (mantissa : Nat) (exponent : Int) :
    (4 * mantissa - 2 : ℚ) ≤ lowEnd mantissa exponent := by
  unfold lowEnd
  split <;> linarith

/-- A decimal that passes the test lies in the interval, and at an end of it only if the mantissa is
even. -/
theorem bounds_of_readsBack (hs : IsScaled mantissa exponent) {n : Nat} {grid : Int} {q : ℚ}
    (hscale : (n : ℚ) * 10 ^ grid = q * 2 ^ exponent)
    (h : readsBack mantissa exponent n grid = true) :
    (lowEnd mantissa exponent < 4 * q ∨
        mantissa % 2 = 0 ∧ 4 * q = lowEnd mantissa exponent) ∧
      (4 * q < 4 * mantissa + 2 ∨ mantissa % 2 = 0 ∧ 4 * q = 4 * mantissa + 2) := by
  have hpos := hs.pos
  -- The test computes the ends in natural numbers, and a mantissa is positive.
  have hnarrow : ((4 * mantissa - 1 : Nat) : ℚ) = 4 * mantissa - 1 := by
    rw [Nat.cast_sub (by omega)]
    push_cast
    ring
  have hwide : ((4 * mantissa - 2 : Nat) : ℚ) = 4 * mantissa - 2 := by
    rw [Nat.cast_sub (by omega)]
    push_cast
    ring
  obtain ⟨-, hloweq, hlowgt⟩ := compareScaled_quarter hscale
    (if mantissa = leadingBit ∧ -1074 < exponent then 4 * mantissa - 1 else 4 * mantissa - 2)
  obtain ⟨hhighlt, hhigheq, -⟩ := compareScaled_quarter hscale (4 * mantissa + 2)
  unfold readsBack at h
  dsimp only at h
  rw [decide_eq_true_eq, hlowgt, hloweq, hhighlt, hhigheq] at h
  push_cast at h
  rw [hnarrow, hwide] at h
  exact h

/-- A decimal that passes the test is rounded to the number. -/
theorem rounds_of_readsBack (hs : IsScaled mantissa exponent) {n : Nat} {grid : Int}
    (h : readsBack mantissa exponent n grid = true) :
    Rounds mantissa exponent (n * 10 ^ grid) := by
  have hscale : (n : ℚ) * 10 ^ grid = n * 10 ^ grid / 2 ^ exponent * 2 ^ exponent := by field_simp
  generalize hq : (n : ℚ) * 10 ^ grid / 2 ^ exponent = q at hscale
  obtain ⟨hlow, hhigh⟩ := bounds_of_readsBack hs hscale h
  have hlowEnd := le_lowEnd mantissa exponent
  have hlowLe : lowEnd mantissa exponent ≤ 4 * q := by
    rcases hlow with hlt | ⟨-, heq⟩
    · exact hlt.le
    · exact heq.ge
  have hhighLe : 4 * q ≤ 4 * mantissa + 2 := by
    rcases hhigh with hlt | ⟨-, heq⟩
    · exact hlt.le
    · exact heq.le
  constructor
  · rw [hq]
    by_cases heven : mantissa % 2 = 0
    · have hle : |q - mantissa| ≤ 1 / 2 := abs_le.2 (by constructor <;> linarith)
      exact hle.lt_or_eq.imp_right fun heq => ⟨heven, heq⟩
    · -- The ends do not belong to an odd number.
      have hlowLt := hlow.resolve_right fun hend => heven hend.1
      have hhighLt := hhigh.resolve_right fun hend => heven hend.1
      exact .inl (abs_lt.2 (by constructor <;> linarith))
  · -- Below a power of two the numbers lie twice as close, so the lower end is nearer.
    intro hleading hexponent
    rw [lowEnd, if_pos ⟨hleading, hexponent⟩] at hlowLe
    rw [hq]
    linarith

/-! ## The search -/

variable {tie : Tie}

/-- The decimal that is found on a grid passes the test. -/
theorem readsBack_of_onGrid {grid : Int} {n : Nat}
    (h : onGrid tie mantissa exponent grid = some n) :
    readsBack mantissa exponent n grid = true := by
  unfold onGrid at h
  dsimp only at h
  generalize countBelow mantissa exponent grid = low at h
  have hlow (hhits : decide (low ≠ 0 ∧ readsBack mantissa exponent low grid = true) = true) :
      readsBack mantissa exponent low grid = true := (of_decide_eq_true hhits).2
  -- Both neighbours pass, one of them does, or none.
  split at h
  next hlowHits hhighHits =>
    obtain rfl := Option.some.inj h
    split
    · exact hhighHits
    · exact hlow hlowHits
  next hlowHits hhighHits =>
    obtain rfl := Option.some.inj h
    exact hlow hlowHits
  next hlowHits hhighHits =>
    obtain rfl := Option.some.inj h
    exact hhighHits
  next => cases h

/-- The decimal that the search ends on passes the test. -/
theorem readsBack_of_search {steps : Nat} {grid : Int} {d : Decimal}
    (h : search tie mantissa exponent steps grid = some d) :
    readsBack mantissa exponent d.digits d.exponent = true := by
  induction steps generalizing grid with
  | zero => cases h
  | succ steps ih =>
    rw [search] at h
    split at h
    next n hn =>
      obtain rfl := Option.some.inj h
      exact readsBack_of_onGrid hn
    next => exact ih h

/-- Taking a zero from the end of the digits leaves the value. -/
theorem value_stripZeros (steps : Nat) (d : Decimal) : (stripZeros steps d).value = d.value := by
  induction steps generalizing d with
  | zero => rfl
  | succ steps ih =>
    rw [stripZeros]
    split
    next hzero =>
      rw [ih]
      -- The last digit is a zero, which moves into the exponent.
      have hdigits : (d.digits : ℚ) = (d.digits / 10 : Nat) * 10 := by
        have : d.digits = d.digits / 10 * 10 := by omega
        exact_mod_cast this
      unfold value
      dsimp only
      rw [hdigits, zpow_add_one₀ (by norm_num)]
      ring
    next => rfl

/-- The exact decimal has the value of the number. -/
theorem value_exact (mantissa : Nat) (exponent : Int) :
    (exact mantissa exponent).value = mantissa * 2 ^ exponent := by
  -- The powers of two and five below the fraction line make one of ten.
  have hden : (Power.den 2 exponent : ℚ) * Power.den 5 exponent * 10 ^ min exponent 0 = 1 := by
    unfold Power.den
    rcases Int.le_total 0 exponent with hsign | hsign
    · have hzero : (-exponent).toNat = 0 := by omega
      rw [hzero, min_eq_right hsign]
      norm_num
    · obtain ⟨size, hsize⟩ := Int.eq_ofNat_of_zero_le (Int.neg_nonneg_of_nonpos hsign)
      obtain rfl : exponent = -size := by omega
      rw [min_eq_left hsign, neg_neg, Int.toNat_natCast, zpow_neg, zpow_natCast, Nat.pow_eq,
        Nat.pow_eq]
      push_cast
      rw [← mul_pow]
      norm_num
  unfold value exact
  push_cast
  rw [Power.num_eq two_pos, Nat.cast_ofNat]
  calc (mantissa : ℚ) * (2 ^ exponent * Power.den 2 exponent) * Power.den 5 exponent *
        10 ^ min exponent 0
      = mantissa * 2 ^ exponent *
          (Power.den 2 exponent * Power.den 5 exponent * 10 ^ min exponent 0) := by ring
    _ = mantissa * 2 ^ exponent := by rw [hden, mul_one]

/-- The shortest decimal is rounded to the number, whether the search ends on it or not. -/
theorem rounds_shortest (hs : IsScaled mantissa exponent) (tie : Tie) :
    Rounds mantissa exponent (shortest tie mantissa exponent).value := by
  unfold shortest
  split
  next d hd =>
    rw [value_stripZeros]
    exact rounds_of_readsBack hs (readsBack_of_search hd)
  next =>
    rw [value_exact]
    exact Binary64.rounds_self mantissa exponent

end MetricGateway.Decimal
