import MetricGateway.Proofs.Decimal.Rounding

/-!
# Rounding keeps the order

A finite number stands for a rational (`size`), and is what this rational is rounded to
(`nearest_size`). What is not greater is not rounded to a greater number (`nearest_mono`), so
products and quotients of finite numbers are in the order of their factors (`magnitude_times_le`,
`magnitude_dividedBy_le`).
-/

namespace MetricGateway.Binary64

/-! ## The order of rationals -/

section

variable {q : ℚ} {mantissa : Nat}

/-- At its last bit, a rational is rounded to no more than twice the leading bit. -/
theorem Nearest.le_two_mul_leadingBit (h : Nearest mantissa (q / 2 ^ lastExponent q)) (hq : 0 < q) :
    mantissa ≤ 2 * leadingBit := by
  refine h.le_of_le (nearest_self _) ?_
  rw [cast_two_mul_leadingBit]
  refine ((div_lt_pow_iff hq 53).2 ?_).le
  unfold lastExponent
  omega

/-- Unless its last bit is the least one, a rational is rounded to no less than the leading bit. -/
theorem Nearest.leadingBit_le (h : Nearest mantissa (q / 2 ^ lastExponent q)) (hq : 0 < q)
    (hleast : -1074 < lastExponent q) : leadingBit ≤ mantissa := by
  refine (nearest_self _).le_of_le h ?_
  rw [cast_leadingBit, pow_le_div_iff hq]
  unfold lastExponent at hleast ⊢
  omega

end

/-- A quotient is not rounded to a greater magnitude than one that is not less. -/
theorem nearestMagnitude_mono {a b c d : Nat} (hb : 0 < b) (hd : 0 < d)
    (h : (a : ℚ) / b ≤ c / d) : nearestMagnitude a b ≤ nearestMagnitude c d := by
  rcases Nat.eq_zero_or_pos a with rfl | ha
  · have hzero : nearestMagnitude 0 b = 0 := if_pos rfl
    rw [hzero]
    exact Nat.zero_le _
  have hpos : (0 : ℚ) < a / b := by positivity
  have hc : c ≠ 0 := by
    rintro rfl
    rw [Nat.cast_zero, zero_div] at h
    exact hpos.not_ge h
  obtain ⟨mantissa, hnearest, hmagnitude⟩ := exists_nearestMagnitude ha.ne' hb
  obtain ⟨mantissa', hnearest', hmagnitude'⟩ := exists_nearestMagnitude hc hd
  rw [hmagnitude, hmagnitude']
  refine min_le_min_right _ ?_
  have hlog : Int.log 2 ((a : ℚ) / b) ≤ Int.log 2 ((c : ℚ) / d) := Int.log_mono_right hpos h
  have hexponent : lastExponent ((a : ℚ) / b) ≤ lastExponent ((c : ℚ) / d) := by
    unfold lastExponent
    omega
  rcases hexponent.eq_or_lt with heq | hlt
  · -- The same bit is the last one of both.
    rw [heq] at hnearest ⊢
    have hle : mantissa ≤ mantissa' :=
      hnearest.le_of_le hnearest' (div_le_div_of_nonneg_right h (by positivity))
    exact Nat.add_le_add_left hle _
  · -- The mantissa of the greater one has its leading bit.
    have hleast : -1074 ≤ lastExponent ((a : ℚ) / b) := le_max_right _ _
    have hmost := hnearest.le_two_mul_leadingBit hpos
    have hleading := hnearest'.leadingBit_le (hpos.trans_le h) (hleast.trans_lt hlt)
    unfold magnitudeOf
    unfold leadingBit at *
    omega

/-- The magnitude that a rational is rounded to. -/
def nearest (q : ℚ) : Nat := nearestMagnitude q.num.toNat q.den

section

variable {q r : ℚ}

/-- A rational is the quotient of its numerator and its denominator. -/
theorem div_num_den (h : 0 ≤ q) : (q.num.toNat : ℚ) / q.den = q := by
  have hnum : ((q.num.toNat : Int) : ℚ) = (q.num : ℚ) := by
    rw [Int.toNat_of_nonneg (Rat.num_nonneg.2 h)]
  rw [← Int.cast_natCast, hnum, Rat.num_div_den]

/-- Rounding keeps the order. -/
theorem nearest_mono (hq : 0 ≤ q) (h : q ≤ r) : nearest q ≤ nearest r := by
  refine nearestMagnitude_mono q.pos r.pos ?_
  rw [div_num_den hq, div_num_den (hq.trans h)]
  exact h

/-- A quotient is rounded like the rational that it is. -/
theorem nearestMagnitude_eq_nearest (num : Nat) {den : Nat} (h : 0 < den) :
    nearestMagnitude num den = nearest (num / den) := by
  have heq := div_num_den (by positivity : (0 : ℚ) ≤ num / den)
  exact Nat.le_antisymm (nearestMagnitude_mono h (Rat.pos _) heq.ge)
    (nearestMagnitude_mono (Rat.pos _) h heq.le)

/-- Rounding stops at infinity. -/
theorem nearest_le (q : ℚ) : nearest q ≤ infinityBits := nearestMagnitude_le _ _

/-- A rational is rounded to the number around which it lies. -/
theorem nearest_eq {mantissa : Nat} {exponent : Int} (hs : IsScaled mantissa exponent)
    (h : Rounds mantissa exponent q) : nearest q = magnitudeOf mantissa exponent := by
  refine nearestMagnitude_eq hs q.pos ?_
  rw [div_num_den (h.pos hs).le]
  exact h

end

/-! ## What numbers stand for -/

/-- The rational that a finite number stands for, without its sign. -/
def size (x : Binary64) : ℚ :=
  match x.shape with
  | .finite _ mantissa exponent => mantissa * 2 ^ exponent
  | _ => 0

section

variable {x y : Binary64}

/-- The size of a number is read from its shape. -/
theorem size_of_shape {negative : Bool} {mantissa : Nat} {exponent : Int}
    (h : x.shape = .finite negative mantissa exponent) : x.size = mantissa * 2 ^ exponent := by
  unfold size
  rw [h]

/-- No number is less than nothing, its sign aside. -/
theorem size_nonneg (x : Binary64) : 0 ≤ x.size := by
  unfold size
  split
  · positivity
  · exact le_rfl

/-- The sign has no part in the size. -/
theorem size_congr (h : x.magnitude = y.magnitude) : x.size = y.size := by
  unfold size shape
  dsimp only
  rw [h]
  by_cases hinfinite : y.magnitude / leadingBit = 2047
  · rw [if_pos hinfinite, if_pos hinfinite]
    by_cases hfraction : y.magnitude % leadingBit = 0
    · rw [if_pos hfraction, if_pos hfraction]
    · rw [if_neg hfraction, if_neg hfraction]
  · rw [if_neg hinfinite, if_neg hinfinite]
    by_cases hfield : y.magnitude / leadingBit = 0
    · rw [if_pos hfield, if_pos hfield]
    · rw [if_neg hfield, if_neg hfield]

/-- The size of a finite number is rounded to the number. -/
theorem nearest_size (h : x.magnitude < infinityBits) : nearest x.size = x.magnitude := by
  obtain ⟨negative, mantissa, exponent, hshape⟩ := exists_shape_finite h
  obtain ⟨hx, hscaled⟩ := eq_of_shape hshape
  rw [size_of_shape hshape]
  rcases hscaled with ⟨rfl, rfl⟩ | hs
  · rw [hx, Nat.cast_zero, zero_mul]
    cases negative <;> decide
  · rw [nearest_eq hs (rounds_self mantissa exponent), hx,
      magnitude_ofMagnitude hs.magnitudeOf_lt.le]

/-- Of two finite numbers, the one with the greater magnitude is the greater one. -/
theorem size_le_size (hx : x.magnitude < infinityBits) (hy : y.magnitude < infinityBits)
    (h : x.magnitude ≤ y.magnitude) : x.size ≤ y.size := by
  by_contra hless
  have hle := nearest_mono y.size_nonneg (not_le.1 hless).le
  rw [nearest_size hx, nearest_size hy] at hle
  exact hless (size_congr (Nat.le_antisymm h hle)).le

/-- The size of a number of the format is what its mantissa and exponent say. -/
theorem size_ofMagnitude {mantissa : Nat} {exponent : Int} (hs : IsScaled mantissa exponent)
    (negative : Bool) :
    (ofMagnitude negative (magnitudeOf mantissa exponent)).size = mantissa * 2 ^ exponent := by
  have hmagnitude := @magnitude_ofMagnitude negative _ hs.magnitudeOf_lt.le
  obtain ⟨negative', mantissa', exponent', hshape⟩ :=
    exists_shape_finite (hmagnitude.trans_lt hs.magnitudeOf_lt)
  obtain ⟨hx, hscaled⟩ := eq_of_shape hshape
  rw [size_of_shape hshape]
  have hsame : magnitudeOf mantissa' exponent' = magnitudeOf mantissa exponent := by
    have hfinite : magnitudeOf mantissa' exponent' ≤ infinityBits := by
      rcases hscaled with ⟨rfl, rfl⟩ | hs'
      · decide
      · exact hs'.magnitudeOf_lt.le
    rw [← hmagnitude, hx, magnitude_ofMagnitude hfinite]
  -- Only the least exponent goes with a mantissa without its leading bit.
  obtain ⟨rfl, rfl⟩ : mantissa' = mantissa ∧ exponent' = exponent := by
    obtain ⟨hpos, hlt, hleast, -, hleading⟩ := hs
    unfold magnitudeOf at hsame
    rcases hscaled with ⟨rfl, rfl⟩ | ⟨hpos', hlt', hleast', -, hleading'⟩
    · unfold leadingBit at *
      omega
    · unfold leadingBit at *
      omega
  rfl

/-! ## Products and quotients -/

/-- A product is rounded once. -/
theorem magnitude_times (hx : x.magnitude < infinityBits) (hy : y.magnitude < infinityBits) :
    (x.times y).magnitude = nearest (x.size * y.size) := by
  obtain ⟨negative, mantissa, exponent, hshape⟩ := exists_shape_finite hx
  obtain ⟨negative', mantissa', exponent', hshape'⟩ := exists_shape_finite hy
  have hden := Power.den_pos two_pos (exponent + exponent')
  have hproduct : ((mantissa * mantissa' * Power.num 2 (exponent + exponent') : Nat) : ℚ) /
      (Power.den 2 (exponent + exponent') : Nat) = x.size * y.size := by
    have hpower := Power.mul_num_div_den two_pos (exponent + exponent') (mantissa * mantissa') 1
    rw [Nat.one_mul, Nat.cast_one, div_one, Nat.cast_ofNat, zpow_add₀ two_ne_zero] at hpower
    rw [hpower, size_of_shape hshape, size_of_shape hshape']
    push_cast
    ring
  unfold times
  rw [hshape, hshape']
  dsimp only
  rw [magnitude_ofMagnitude (nearestMagnitude_le _ _), nearestMagnitude_eq_nearest _ hden, hproduct]

/-- A quotient is rounded once. -/
theorem magnitude_dividedBy (hx : x.magnitude < infinityBits) (hy : y.magnitude < infinityBits)
    (hpos : 0 < y.size) : (x.dividedBy y).magnitude = nearest (x.size / y.size) := by
  obtain ⟨negative, mantissa, exponent, hshape⟩ := exists_shape_finite hx
  obtain ⟨negative', mantissa', exponent', hshape'⟩ := exists_shape_finite hy
  have hmantissa : 0 < mantissa' := by
    refine Nat.pos_of_ne_zero fun hzero => ?_
    rw [size_of_shape hshape', hzero, Nat.cast_zero, zero_mul] at hpos
    exact lt_irrefl 0 hpos
  have hden := Power.den_pos two_pos (exponent - exponent')
  have hquotient : ((mantissa * Power.num 2 (exponent - exponent') : Nat) : ℚ) /
      (mantissa' * Power.den 2 (exponent - exponent') : Nat) = x.size / y.size := by
    rw [Power.mul_num_div_den two_pos, size_of_shape hshape, size_of_shape hshape', Nat.cast_ofNat,
      zpow_sub₀ two_ne_zero]
    field_simp
  unfold dividedBy
  rw [hshape, hshape']
  dsimp only
  rw [magnitude_ofMagnitude (nearestMagnitude_le _ _),
    nearestMagnitude_eq_nearest _ (Nat.mul_pos hmantissa hden), hquotient]

/-- A greater factor does not make the product less. -/
theorem magnitude_times_le {x' : Binary64} (hx' : x'.magnitude < infinityBits)
    (hy : y.magnitude < infinityBits) (h : x.magnitude ≤ x'.magnitude) :
    (x.times y).magnitude ≤ (x'.times y).magnitude := by
  have hx := h.trans_lt hx'
  rw [magnitude_times hx hy, magnitude_times hx' hy]
  exact nearest_mono (mul_nonneg x.size_nonneg y.size_nonneg)
    (mul_le_mul_of_nonneg_right (size_le_size hx hx' h) y.size_nonneg)

/-- Dividing by one or more makes no number greater. -/
theorem magnitude_dividedBy_le (hx : x.magnitude < infinityBits) (hy : y.magnitude < infinityBits)
    (hone : 1 ≤ y.size) : (x.dividedBy y).magnitude ≤ x.magnitude := by
  rw [magnitude_dividedBy hx hy (one_pos.trans_le hone), ← nearest_size hx]
  exact nearest_mono (div_nonneg x.size_nonneg y.size_nonneg) (div_le_self x.size_nonneg hone)

end

end MetricGateway.Binary64
