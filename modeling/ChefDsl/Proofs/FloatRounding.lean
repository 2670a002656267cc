import ChefDsl.Decimal.Shortest

/-! Rounding gives back what is already a double, and it depends on a ratio only as a ratio. Hence the shortest
decimal of a double reads back as that double, and so does every decimal of the same value. -/

namespace ChefDsl.Proofs.FloatRounding
open Binary64 Decimal

private theorem nearest_scaled (numerator denominator : Nat) {factor : Nat} (positive : 0 < factor) :
    nearest (numerator * factor) (denominator * factor) = nearest numerator denominator := by
  have quotient : numerator * factor / (denominator * factor) = numerator / denominator :=
    Nat.mul_div_mul_right numerator denominator positive
  have remainder : numerator * factor % (denominator * factor) = numerator % denominator * factor :=
    Nat.mul_mod_mul_right factor numerator denominator
  have twice : 2 * (numerator % denominator * factor) = 2 * (numerator % denominator) * factor :=
    (Nat.mul_assoc ..).symm
  simp only [nearest, quotient, remainder, twice, Nat.mul_lt_mul_right positive]

private theorem nearest_whole (n : Nat) {denominator : Nat} (positive : 0 < denominator) :
    nearest (n * denominator) denominator = n := by
  simp [nearest, positive]

theorem roundRatio_scaled (numerator denominator : Nat) {factor : Nat} (positive : 0 < factor) :
    roundRatio (numerator * factor) (denominator * factor) = roundRatio numerator denominator := by
  have swap : numerator * factor * stepsPerUnit = numerator * stepsPerUnit * factor := Nat.mul_right_comm ..
  have spaced (weight : Nat) : denominator * factor * weight = denominator * weight * factor :=
    Nat.mul_right_comm ..
  simp only [roundRatio, swap, spaced, nearest_scaled _ _ positive, Nat.mul_div_mul_right _ _ positive]

theorem stepsPerUnit_pos : 0 < stepsPerUnit := by
  unfold stepsPerUnit
  generalize 1074 = places
  exact Nat.two_pow_pos places

private theorem log2_steps {field fraction : Nat} (bounded : fraction < exponentWeight) :
    ((exponentWeight + fraction) * Nat.pow 2 field).log2 = 52 + field := by
  have weight : exponentWeight = 2 ^ 52 := rfl
  have positive : 0 < 2 ^ field := Nat.two_pow_pos field
  rw [weight] at bounded ⊢
  rw [Nat.pow_eq]
  refine (Nat.log2_eq_iff ?_).mpr ⟨?_, ?_⟩
  · exact Nat.ne_of_gt (Nat.mul_pos (by omega) positive)
  · rw [Nat.pow_add]
    exact Nat.mul_le_mul_right _ (by omega)
  · rw [show 52 + field + 1 = 53 + field by omega, Nat.pow_add]
    exact (Nat.mul_lt_mul_right positive).mpr (by omega)

private theorem roundRatio_whole (n : Nat) : roundRatio n stepsPerUnit =
    min ((n.log2 - 52) * exponentWeight + nearest n (Nat.pow 2 (n.log2 - 52))) infinite := by
  have whole : n * stepsPerUnit / stepsPerUnit = n := Nat.mul_div_cancel n stepsPerUnit_pos
  have spaced (weight : Nat) : nearest (n * stepsPerUnit) (stepsPerUnit * weight) = nearest n weight := by
    rw [Nat.mul_comm stepsPerUnit, nearest_scaled _ _ stepsPerUnit_pos]
  simp only [roundRatio, whole, spaced]

private theorem roundRatio_subnormal {magnitude : Nat} (subnormal : magnitude < exponentWeight) :
    roundRatio magnitude stepsPerUnit = magnitude := by
  have weight : exponentWeight = 2 ^ 52 := rfl
  have finite : exponentWeight < infinite := by decide
  have low : magnitude.log2 - 52 = 0 := by
    by_cases zero : magnitude = 0
    · rw [zero, Nat.log2_zero]
    · have small := (Nat.log2_lt zero).mpr (weight ▸ subnormal)
      omega
  have same := nearest_whole magnitude Nat.one_pos
  rw [Nat.mul_one] at same
  rw [roundRatio_whole, low, Nat.pow_eq, Nat.pow_zero, Nat.zero_mul, Nat.zero_add, same]
  omega

private theorem roundRatio_normal {field fraction : Nat} (bounded : fraction < exponentWeight) :
    roundRatio ((exponentWeight + fraction) * Nat.pow 2 field) stepsPerUnit =
      min ((field + 1) * exponentWeight + fraction) infinite := by
  have positive : 0 < Nat.pow 2 field := Nat.two_pow_pos field
  rw [roundRatio_whole, log2_steps bounded, Nat.add_sub_cancel_left, nearest_whole _ positive, Nat.add_mul, Nat.one_mul,
    Nat.add_assoc]

/-- A finite double is the rounding of its own value. -/
theorem roundRatio_steps {magnitude : Nat} (finite : magnitude < infinite) :
    roundRatio (steps magnitude) stepsPerUnit = magnitude := by
  have split : exponentWeight * (magnitude / exponentWeight) + magnitude % exponentWeight = magnitude :=
    Nat.div_add_mod magnitude exponentWeight
  have bounded : magnitude % exponentWeight < exponentWeight := Nat.mod_lt _ (by decide)
  -- The exponent field tells the subnormal doubles from those with a hidden leading bit.
  cases exponent : magnitude / exponentWeight with
  | zero =>
    rw [exponent, Nat.mul_zero, Nat.zero_add] at split
    have value : steps magnitude = magnitude := by
      simp only [steps, exponent, ↓reduceIte, split]
    rw [value]
    exact roundRatio_subnormal (split ▸ bounded)
  | succ field =>
    have value : steps magnitude = (exponentWeight + magnitude % exponentWeight) * Nat.pow 2 field := by
      simp only [steps, exponent, Nat.succ_ne_zero, ↓reduceIte, Nat.add_one_sub_one]
    rw [exponent, Nat.mul_comm] at split
    rw [value, roundRatio_normal bounded, split]
    omega

theorem roundRatio_zero {denominator : Nat} (positive : 0 < denominator) : roundRatio 0 denominator = 0 := by
  have least : roundRatio (steps 0) stepsPerUnit = 0 := roundRatio_steps (by decide)
  have value : steps 0 = 0 := rfl
  rw [value] at least
  calc roundRatio 0 denominator
      = roundRatio (0 * stepsPerUnit) (denominator * stepsPerUnit) := (roundRatio_scaled 0 _ stepsPerUnit_pos).symm
    _ = roundRatio (0 * denominator) (stepsPerUnit * denominator) := by
      rw [Nat.zero_mul, Nat.zero_mul, Nat.mul_comm denominator]
    _ = roundRatio 0 stepsPerUnit := roundRatio_scaled 0 _ positive
    _ = 0 := least

/-- The exponent of a decimal may be split between a numerator and a denominator in any way. -/
theorem magnitude_ratio (decimal : Decimal) (up down : Nat) (split : decimal.exponent = (up : Int) - down) :
    decimal.magnitude = roundRatio (decimal.digits * Nat.pow 10 up) (Nat.pow 10 down) := by
  obtain ⟨digits, exponent⟩ := decimal
  have positive (power : Nat) : 0 < Nat.pow 10 power := Nat.pow_pos (by decide)
  have sum (first second : Nat) : Nat.pow 10 (first + second) = Nat.pow 10 first * Nat.pow 10 second :=
    Nat.pow_add 10 first second
  cases exponent with
  | ofNat power =>
    have more : up = power + down := by
      simp only [Int.ofNat_eq_natCast] at split
      omega
    have scaled := roundRatio_scaled (digits * Nat.pow 10 power) 1 (positive down)
    rw [Nat.one_mul] at scaled
    rw [more, sum, ← Nat.mul_assoc, scaled, Decimal.magnitude]
  | negSucc power =>
    have more : down = power + 1 + up := by
      simp only [Int.negSucc_eq] at split
      omega
    rw [more, sum (power + 1), roundRatio_scaled _ _ (positive up), Decimal.magnitude]

theorem magnitude_zeros (digits count : Nat) (exponent : Int) :
    (Decimal.mk (digits * Nat.pow 10 count) exponent).magnitude =
      (Decimal.mk digits (exponent + count)).magnitude := by
  have sum : Nat.pow 10 (count + exponent.toNat) = Nat.pow 10 count * Nat.pow 10 exponent.toNat :=
    Nat.pow_add 10 count exponent.toNat
  rw [magnitude_ratio _ exponent.toNat (-exponent).toNat (by simp only; omega),
    magnitude_ratio _ (count + exponent.toNat) (-exponent).toNat (by simp only; omega), sum, Nat.mul_assoc]

theorem magnitude_zero (exponent : Int) : (Decimal.mk 0 exponent).magnitude = 0 := by
  rw [magnitude_ratio _ exponent.toNat (-exponent).toNat (by simp only; omega), Nat.zero_mul]
  exact roundRatio_zero (Nat.pow_pos (by decide))

theorem digits_of_magnitude {decimal : Decimal} (positive : 0 < decimal.magnitude) : decimal.digits ≠ 0 := by
  obtain ⟨digits, exponent⟩ := decimal
  rintro rfl
  rw [magnitude_zero] at positive
  contradiction

private theorem magnitude_halves (digits places : Nat) :
    (Decimal.mk (digits * Nat.pow 5 places) (-places)).magnitude = roundRatio digits (Nat.pow 2 places) := by
  have tens : Nat.pow 10 places = Nat.pow 2 places * Nat.pow 5 places := Nat.mul_pow 2 5 places
  have one : Nat.pow 10 0 = 1 := rfl
  rw [magnitude_ratio _ 0 places (by simp), tens, one, Nat.mul_one]
  exact roundRatio_scaled _ _ (Nat.pow_pos (by decide))

private theorem magnitude_exact {magnitude : Nat} (finite : magnitude < infinite) :
    (exact magnitude).magnitude = magnitude :=
  (magnitude_halves (steps magnitude) 1074).trans (roundRatio_steps finite)

private theorem magnitude_onGrid {tie : Tie} {magnitude dropped : Nat} {decimal : Decimal}
    (found : onGrid? tie magnitude dropped = some decimal) : decimal.magnitude = magnitude := by
  simp only [onGrid?] at found
  split at found
  next low =>
    cases found
    exact low.1
  next =>
    split at found
    next high =>
      cases found
      exact high
    next => cases found

/-- The shortest decimal of a double reads back as the double. -/
theorem magnitude_shortest (tie : Tie) {magnitude : Nat} (finite : magnitude < infinite) :
    (shortest tie magnitude).magnitude = magnitude := by
  unfold shortest
  split
  next zero => rw [zero, magnitude_zero]
  next =>
    dsimp only
    generalize search : List.findSome? _ _ = found
    cases found with
    | none => exact magnitude_exact finite
    | some decimal =>
      obtain ⟨count, _, found⟩ := List.exists_of_findSome?_eq_some search
      exact magnitude_onGrid found

end ChefDsl.Proofs.FloatRounding
