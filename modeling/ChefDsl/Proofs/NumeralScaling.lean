import ChefDsl.Json.Numeral
import ChefDsl.Proofs.RoundingErrors
import Mathlib.Tactic.NormNum

/-! How far the JSON reader misses the nearest double. A significand of up to 53 bits and a power of ten up to the
twenty-second are doubles, so that their product or quotient is rounded only once, to the nearest double. Otherwise a
few roundings come together, and the result is at most three doubles away from the nearest one. -/

namespace ChefDsl.Proofs.NumeralScaling
open Binary64 Json FloatRounding RoundingBounds RoundingErrors

section Exact
variable {n power : Nat}

/-- Every number of up to 53 bits is a double. -/
theorem exists_steps (small : n ≤ 2 * exponentWeight) : ∃ magnitude < infinite, steps magnitude = n * stepsPerUnit := by
  have weight : exponentWeight = 2 ^ 52 := rfl
  by_cases zero : n = 0
  · exact ⟨0, by decide, by rw [zero, Nat.zero_mul]; rfl⟩
  have start := Nat.log2_self_le zero
  have stop : n < 2 ^ (n.log2 + 1) := Nat.lt_log2_self
  obtain ⟨shift, same⟩ : ∃ shift, shift = 52 - n.log2 := ⟨_, rfl⟩
  have low : exponentWeight ≤ n * 2 ^ shift := by
    calc exponentWeight = 2 ^ 52 := weight
      _ ≤ 2 ^ (n.log2 + shift) := Nat.pow_le_pow_right (by decide) (by omega)
      _ = 2 ^ n.log2 * 2 ^ shift := Nat.pow_add ..
      _ ≤ n * 2 ^ shift := Nat.mul_le_mul_right _ start
  have high : n * 2 ^ shift ≤ 2 * exponentWeight := by
    by_cases long : 52 < n.log2
    · rw [same, Nat.sub_eq_zero_of_le long.le, Nat.pow_zero, Nat.mul_one]
      exact small
    · calc n * 2 ^ shift ≤ 2 ^ (n.log2 + 1) * 2 ^ shift := Nat.mul_le_mul_right _ stop.le
        _ = 2 ^ (n.log2 + 1 + shift) := (Nat.pow_add ..).symm
        _ = 2 * exponentWeight := by rw [same, show n.log2 + 1 + (52 - n.log2) = 53 by omega]; rfl
  have unit : stepsPerUnit = 2 ^ shift * Nat.pow 2 (1074 - shift) := by
    have long : shift ≤ 1074 := by omega
    unfold stepsPerUnit
    generalize 1074 = places at *
    rw [Nat.pow_eq, Nat.pow_eq, ← Nat.pow_add, Nat.add_sub_cancel' long]
  refine ⟨(1074 - shift) * exponentWeight + n * 2 ^ shift, ?_, ?_⟩
  · have finite : infinite = 2047 * exponentWeight := rfl
    have most : (1074 - shift) * exponentWeight ≤ 1074 * exponentWeight := Nat.mul_le_mul_right _ (by omega)
    omega
  · rw [steps_block (.inr low) high, unit, Nat.mul_assoc]

private theorem steps_roundNat (small : n ≤ 2 * exponentWeight) : steps (roundNat n) = n * stepsPerUnit := by
  obtain ⟨magnitude, finite, value⟩ := exists_steps small
  have scaled := roundRatio_scaled n 1 stepsPerUnit_pos
  rw [Nat.one_mul, ← value, roundRatio_steps finite] at scaled
  rw [roundNat, ← scaled, value]

private theorem steps_powerOfTen (small : power ≤ 22) : steps (powerOfTen power) = Nat.pow 10 power * stepsPerUnit := by
  have each : ∀ power < 23, steps (powerOfTen power) = Nat.pow 10 power * stepsPerUnit := by decide +kernel
  exact each power (Nat.lt_succ_of_le small)

/-- Short numerals are read as the nearest doubles. -/
theorem scale_exact {exponent : Int} (small : n ≤ 2 * exponentWeight) (short : exponent.natAbs ≤ 22) :
    scaleByPower n exponent = (Decimal.mk n exponent).magnitude := by
  have significand := steps_roundNat small
  cases exponent with
  | ofNat power =>
    have low : power ≤ 22 := short
    have inside : power ≤ greatestPower := Nat.le_trans low (by decide)
    have product : n * stepsPerUnit * (Nat.pow 10 power * stepsPerUnit) =
        n * Nat.pow 10 power * (stepsPerUnit * stepsPerUnit) := by ring
    have scaled := roundRatio_scaled (n * Nat.pow 10 power) 1 (Nat.mul_pos stepsPerUnit_pos stepsPerUnit_pos)
    rw [Nat.one_mul] at scaled
    rw [scaleByPower, if_pos inside, multiply, significand, steps_powerOfTen low, product, scaled, Decimal.magnitude]
  | negSucc power =>
    have low : power + 1 ≤ 22 := short
    have inside : power + 1 ≤ greatestPower := Nat.le_trans low (by decide)
    rw [scaleByPower, divideByPower, if_pos inside, divide, significand, steps_powerOfTen low,
      roundRatio_scaled _ _ stepsPerUnit_pos, Decimal.magnitude]

end Exact

section Drift
variable {n power : Nat}

/-- The greatest number that a significand may be multiplied by. -/
def greatest : Nat := Nat.pow 10 greatestPower

private theorem power_le_greatest (low : power ≤ greatestPower) : Nat.pow 10 power ≤ greatest := by
  unfold greatest
  generalize greatestPower = bound at *
  exact Nat.pow_le_pow_right (by decide) low

/-- Numbers up to the greatest power of ten are normal doubles. -/
theorem roundNat_normal (positive : 0 < n) (bounded : n ≤ greatest) :
    exponentWeight ≤ roundNat n ∧ roundNat n < infinite := by
  constructor
  · have least : halfway (exponentWeight - 1) < 2 * stepsPerUnit := by decide +kernel
    have more : stepsPerUnit ≤ n * stepsPerUnit := Nat.le_mul_of_pos_left _ positive
    have above : exponentWeight - 1 < roundNat n := by
      apply lt_roundRatio Nat.one_pos (by decide)
      omega
    omega
  · have most : 2 * (greatest * stepsPerUnit) < halfway (infinite - 1) := by decide +kernel
    have less : n * stepsPerUnit ≤ greatest * stepsPerUnit := Nat.mul_le_mul_right _ bounded
    have below : roundNat n ≤ infinite - 1 := by
      apply roundRatio_le Nat.one_pos
      omega
    have finite : infinite - 1 < infinite := by decide
    omega

private theorem steps_powerOfTen_pos (low : power ≤ greatestPower) : 0 < steps (powerOfTen power) := by
  have normal := (roundNat_normal (power_pos power) (power_le_greatest low)).1
  exact steps_pos (Nat.lt_of_lt_of_le (by decide) normal)

private theorem close_roundNat (positive : 0 < n) (bounded : n ≤ greatest) : Close kept n (value (roundNat n)) := by
  obtain ⟨normal, finite⟩ := roundNat_normal positive bounded
  have close := close_roundRatio Nat.one_pos normal finite
  rw [Nat.cast_one, div_one] at close
  exact close

private theorem value_nonneg (magnitude : Nat) : 0 ≤ value magnitude := div_nonneg (Nat.cast_nonneg _) unit_pos.le

private theorem value_powerOfTen_pos (low : power ≤ greatestPower) : 0 < value (powerOfTen power) :=
  div_pos (Nat.cast_pos.mpr (steps_powerOfTen_pos low)) unit_pos

private theorem two_roundings : allowed ≤ kept * kept := by
  norm_num [allowed, kept]

private theorem multiply_drift (positive : 0 < n) (bounded : n ≤ greatest) (low : power ≤ greatestPower) :
    multiply (roundNat n) (powerOfTen power) ≤ roundRatio (n * Nat.pow 10 power) 1 + 3 ∧
      roundRatio (n * Nat.pow 10 power) 1 ≤ multiply (roundNat n) (powerOfTen power) + 3 := by
  have tens : (0 : ℚ) ≤ (Nat.pow 10 power : Nat) := Nat.cast_nonneg _
  have close := (close_roundNat positive bounded).mul kept_pos.le kept_pos.le (value_nonneg _) tens
    (close_roundNat (power_pos power) (power_le_greatest low))
  apply apart_of_close Nat.one_pos (Nat.mul_pos stepsPerUnit_pos stepsPerUnit_pos) two_roundings
  rw [Nat.cast_one, div_one, Nat.cast_mul, Nat.cast_mul, Nat.cast_mul, ← div_mul_div_comm]
  exact close

private theorem divide_drift (positive : 0 < n) (bounded : n ≤ greatest) (low : power ≤ greatestPower) :
    divide (roundNat n) (powerOfTen power) ≤ roundRatio n (Nat.pow 10 power) + 3 ∧
      roundRatio n (Nat.pow 10 power) ≤ divide (roundNat n) (powerOfTen power) + 3 := by
  have tens : (0 : ℚ) < (Nat.pow 10 power : Nat) := Nat.cast_pos.mpr (power_pos power)
  have divisor : 0 < value (powerOfTen power) := value_powerOfTen_pos low
  have close := (close_roundNat positive bounded).div kept_pos.le kept_pos.le (value_nonneg _) tens divisor
    (close_roundNat (power_pos power) (power_le_greatest low))
  have divisors : 0 < steps (powerOfTen power) := steps_powerOfTen_pos low
  apply apart_of_close (power_pos power) divisors two_roundings
  have cancel := div_div_div_cancel_right₀ unit_pos.ne' (steps (roundNat n) : ℚ) (steps (powerOfTen power))
  rw [← cancel]
  exact close

/-- The factor that the greatest power of ten keeps, which happens to lie near its double. -/
def keptGreatest : ℚ := 1 - 1 / 90071992547409920

/-- What is left of a significand once it is rounded, divided by the greatest power and rounded again. -/
def keptTwice : ℚ := kept * keptGreatest * kept

private theorem keptGreatest_pos : 0 < keptGreatest := by
  norm_num [keptGreatest]

private theorem power_above (power : Nat) : Nat.pow 10 (greatestPower + power) = greatest * Nat.pow 10 power := by
  unfold greatest
  generalize greatestPower = bound
  exact Nat.pow_add 10 bound power

private theorem greatest_pos : 0 < greatest := by
  unfold greatest
  generalize greatestPower = bound
  exact power_pos bound

private theorem close_greatest : Close keptGreatest greatest (value (powerOfTen greatestPower)) := by
  have below : greatest * stepsPerUnit * 90071992547409919 ≤ steps (powerOfTen greatestPower) * 90071992547409920 := by
    decide +kernel
  have above : steps (powerOfTen greatestPower) * 90071992547409919 ≤ greatest * stepsPerUnit * 90071992547409920 := by
    decide +kernel
  have units := unit_pos
  have belowRat := (Nat.cast_le : ((_ : Nat) : ℚ) ≤ _ ↔ _).mpr below
  have aboveRat := (Nat.cast_le : ((_ : Nat) : ℚ) ≤ _ ↔ _).mpr above
  rw [Nat.cast_mul, Nat.cast_mul, Nat.cast_mul, Nat.cast_ofNat, Nat.cast_ofNat] at belowRat aboveRat
  unfold value keptGreatest
  constructor
  · rw [le_div_iff₀ units]
    linarith
  · rw [div_mul_eq_mul_div, div_le_iff₀ units]
    linarith

private theorem divide_le {magnitude divisor : Nat} (large : stepsPerUnit ≤ steps divisor) :
    divide magnitude divisor ≤ magnitude := by
  have positive : 0 < steps divisor := Nat.lt_of_lt_of_le stepsPerUnit_pos large
  apply roundRatio_le positive
  calc 2 * (steps magnitude * stepsPerUnit) ≤ 2 * steps magnitude * steps divisor := by
        rw [← Nat.mul_assoc]
        exact Nat.mul_le_mul_left _ large
    _ < halfway magnitude * steps divisor := by
        apply (Nat.mul_lt_mul_right positive).mpr
        have space := spacing_pos magnitude
        rw [halfway_eq]
        omega

/-- The division by the greatest power may leave a number that is not normal. -/
theorem divide_greatest (positive : 0 < n) (bounded : n ≤ greatest) :
    (n / greatest * stepsPerUnit * keptTwice : ℚ) ≤
        steps (divide (roundNat n) (powerOfTen greatestPower)) + 1 / 2 ∧
      (steps (divide (roundNat n) (powerOfTen greatestPower)) * keptTwice : ℚ) ≤
        n / greatest * stepsPerUnit + 1 / 2 := by
  have large : stepsPerUnit ≤ steps (powerOfTen greatestPower) := by decide +kernel
  have divisors : 0 < steps (powerOfTen greatestPower) := Nat.lt_of_lt_of_le stepsPerUnit_pos large
  have divisor : 0 < value (powerOfTen greatestPower) := value_powerOfTen_pos le_rfl
  have finite : divide (roundNat n) (powerOfTen greatestPower) < infinite :=
    Nat.lt_of_le_of_lt (divide_le large) (roundNat_normal positive bounded).2
  unfold divide at finite ⊢
  obtain ⟨lower, upper⟩ := error_roundRatio divisors finite
  have close := (close_roundNat positive bounded).div kept_pos.le keptGreatest_pos.le (value_nonneg _)
    (Nat.cast_pos.mpr greatest_pos) divisor close_greatest
  rw [value, value, div_div_div_cancel_right₀ unit_pos.ne'] at close
  have under := mul_le_mul_of_nonneg_right close.le unit_pos.le
  have beyond := mul_le_mul_of_nonneg_right close.ge unit_pos.le
  have first := mul_le_mul_of_nonneg_right under kept_pos.le
  have second := mul_le_mul_of_nonneg_right upper (mul_pos kept_pos keptGreatest_pos).le
  have most : kept * keptGreatest ≤ 1 := by norm_num [kept, keptGreatest]
  unfold keptTwice
  constructor
  · linarith
  · linarith

end Drift

section Twice
variable {n power : Nat} {x y t v : ℚ}

private theorem three_roundings : allowed ≤ keptTwice := by
  norm_num [allowed, keptTwice, kept, keptGreatest]

private theorem four_roundings : (1 - 4 / 9007199254740992 : ℚ) ≤ keptTwice * kept := by
  norm_num [keptTwice, kept, keptGreatest]

/-- An exact division makes what is left of half a step only smaller. -/
theorem near_exact (divisor : 1 ≤ t) (nonneg : 0 ≤ x) (le : x * keptTwice ≤ y + 1 / 2) :
    x / t * allowed ≤ y / t + 1 / 2 := by
  have positive : 0 < t := by linarith
  have room := mul_le_mul_of_nonneg_left three_roundings nonneg
  rw [div_mul_eq_mul_div, div_add' _ _ _ positive.ne', div_le_div_iff_of_pos_right positive]
  linarith

/-- A divisor that is rounded itself costs one more factor. -/
theorem near_rounded (divisor : 0 < t) (rounded : 2 ≤ v) (close : v * kept ≤ t) (nonneg : 0 ≤ y)
    (le : x * keptTwice ≤ y + 1 / 2) : x / t * (keptTwice * kept) ≤ y / v + 1 / 4 := by
  have positive : 0 < v := by linarith
  have quotient : (y + 1 / 2) / t * kept ≤ (y + 1 / 2) / v := by
    rw [div_mul_eq_mul_div, div_le_div_iff₀ divisor positive]
    have scaled := mul_le_mul_of_nonneg_left close (by linarith : 0 ≤ y + 1 / 2)
    linarith
  have half : 1 / 2 / v ≤ 1 / 4 := by
    rw [div_le_div_iff₀ positive (by norm_num)]
    linarith
  calc x / t * (keptTwice * kept) = x * keptTwice / t * kept := by ring
    _ ≤ (y + 1 / 2) / t * kept := by
        apply mul_le_mul_of_nonneg_right _ kept_pos.le
        exact (div_le_div_iff_of_pos_right divisor).mpr le
    _ ≤ (y + 1 / 2) / v := quotient
    _ = y / v + 1 / 2 / v := add_div ..
    _ ≤ y / v + 1 / 4 := by linarith

/-- Far below the normal numbers all factors together are less than a step. -/
theorem near_small (nonneg : 0 ≤ x) (small : x ≤ 2199023255552) (le : x * (keptTwice * kept) ≤ y + 1 / 4) :
    x * allowed ≤ y + 1 / 2 := by
  have room := mul_le_mul_of_nonneg_left four_roundings nonneg
  unfold allowed
  linarith

private theorem value_powerOfTen (low : power ≤ 22) : value (powerOfTen power) = (Nat.pow 10 power : Nat) := by
  rw [value, steps_powerOfTen low, Nat.cast_mul, mul_div_cancel_right₀ _ unit_pos.ne']

private theorem one_le_power (power : Nat) : (1 : ℚ) ≤ (Nat.pow 10 power : Nat) := by
  have positive : 1 ≤ Nat.pow 10 power := power_pos power
  exact_mod_cast positive

private theorem quotient_tiny (small : n ≤ Nat.pow 10 17) (beyond : 22 < power) :
    (n / greatest * stepsPerUnit / (Nat.pow 10 power : Nat) : ℚ) ≤ 1099511627776 := by
  have limit : Nat.pow 10 17 * stepsPerUnit ≤ 1099511627776 * (greatest * Nat.pow 10 23) := by decide +kernel
  have order : Nat.pow 10 23 ≤ Nat.pow 10 power := Nat.pow_le_pow_right (by decide) beyond
  have bound : n * stepsPerUnit ≤ 1099511627776 * (greatest * Nat.pow 10 power) := by
    calc n * stepsPerUnit ≤ Nat.pow 10 17 * stepsPerUnit := Nat.mul_le_mul_right _ small
      _ ≤ 1099511627776 * (greatest * Nat.pow 10 23) := limit
      _ ≤ _ := Nat.mul_le_mul_left _ (Nat.mul_le_mul_left _ order)
  have divisor : (0 : ℚ) < greatest * (Nat.pow 10 power : Nat) :=
    mul_pos (Nat.cast_pos.mpr greatest_pos) (Nat.cast_pos.mpr (power_pos power))
  have boundRat := (Nat.cast_le : ((_ : Nat) : ℚ) ≤ _ ↔ _).mpr bound
  rw [Nat.cast_mul, Nat.cast_mul, Nat.cast_mul, Nat.cast_ofNat] at boundRat
  rw [div_mul_eq_mul_div, div_div, div_le_iff₀ divisor]
  exact boundRat

/-- The second divisor is a double, or the number is far below the normal ones. -/
theorem near_twice (positive : 0 < n) (small : n ≤ Nat.pow 10 17) (low : power ≤ greatestPower) :
    let quotient := (steps (divide (roundNat n) (powerOfTen greatestPower)) : ℚ)
    let number := (n / greatest * stepsPerUnit : ℚ)
    quotient / value (powerOfTen power) * allowed ≤ number / (Nat.pow 10 power : Nat) + 1 / 2 ∧
      number / (Nat.pow 10 power : Nat) * allowed ≤ quotient / value (powerOfTen power) + 1 / 2 := by
  have bounded : n ≤ greatest := Nat.le_trans small (power_le_greatest (by decide))
  obtain ⟨lower, upper⟩ := divide_greatest positive bounded
  have numbers : (0 : ℚ) ≤ n / greatest * stepsPerUnit :=
    mul_nonneg (div_nonneg (Nat.cast_nonneg _) (Nat.cast_nonneg _)) unit_pos.le
  have quotients : (0 : ℚ) ≤ steps (divide (roundNat n) (powerOfTen greatestPower)) := Nat.cast_nonneg _
  have divisor := one_le_power power
  dsimp only
  by_cases exact : power ≤ 22
  · rw [value_powerOfTen exact]
    exact ⟨near_exact divisor quotients upper, near_exact divisor numbers lower⟩
  · have close : Close kept (Nat.pow 10 power : Nat) (value (powerOfTen power)) :=
      close_roundNat (power_pos power) (power_le_greatest low)
    have large : (10 : ℚ) ≤ (Nat.pow 10 power : Nat) := by
      have order : Nat.pow 10 1 ≤ Nat.pow 10 power := Nat.pow_le_pow_right (by decide) (by omega)
      exact_mod_cast order
    have rounded : 2 ≤ value (powerOfTen power) := by
      have factor : 2 ≤ 10 * kept := by norm_num [kept]
      have most := mul_le_mul_of_nonneg_right large kept_pos.le
      linarith [close.le]
    have tiny := quotient_tiny small (Nat.not_le.mp exact)
    have down := near_rounded (by linarith) rounded close.ge quotients lower
    have up := near_rounded (by linarith) (by linarith) close.le numbers upper
    have nonneg : (0 : ℚ) ≤ steps (divide (roundNat n) (powerOfTen greatestPower)) / value (powerOfTen power) :=
      div_nonneg quotients (by linarith)
    have room := mul_le_mul_of_nonneg_left four_roundings nonneg
    exact ⟨near_small nonneg (by linarith) up, near_small (div_nonneg numbers (by linarith)) (by linarith) down⟩

private theorem twice_drift (positive : 0 < n) (small : n ≤ Nat.pow 10 17) (low : power ≤ greatestPower) :
    divide (divide (roundNat n) (powerOfTen greatestPower)) (powerOfTen power) ≤
        roundRatio n (greatest * Nat.pow 10 power) + 3 ∧
      roundRatio n (greatest * Nat.pow 10 power) ≤
        divide (divide (roundNat n) (powerOfTen greatestPower)) (powerOfTen power) + 3 := by
  obtain ⟨up, down⟩ := near_twice positive small low
  have divisors : 0 < steps (powerOfTen power) := steps_powerOfTen_pos low
  have denominators : 0 < greatest * Nat.pow 10 power := Nat.mul_pos greatest_pos (power_pos power)
  have number : (n / (greatest * Nat.pow 10 power : Nat) * stepsPerUnit : ℚ) =
      n / greatest * stepsPerUnit / (Nat.pow 10 power : Nat) := by
    rw [Nat.cast_mul, ← div_div, div_mul_eq_mul_div]
  have quotient (f : ℚ) : f / steps (powerOfTen power) * stepsPerUnit = f / value (powerOfTen power) := by
    rw [value, div_div_eq_mul_div, div_mul_eq_mul_div]
  constructor
  · apply roundRatio_drift denominators divisors
    rw [number, quotient]
    exact up
  · apply roundRatio_drift divisors denominators
    rw [number, quotient]
    exact down

end Twice

section Scales
variable {n : Nat} {exponent : Int}

private theorem scale_zero (exponent : Int) : scaleByPower 0 exponent = 0 := by
  have zero : roundNat 0 = 0 := roundRatio_zero Nat.one_pos
  have none : steps 0 = 0 := rfl
  cases exponent with
  | ofNat power =>
    rw [scaleByPower, zero, multiply, none, Nat.zero_mul,
      roundRatio_zero (Nat.mul_pos stepsPerUnit_pos stepsPerUnit_pos)]
    simp
  | negSucc power =>
    rw [scaleByPower, zero, divideByPower]
    split
    next low => rw [divide, none, roundRatio_zero (steps_powerOfTen_pos low)]
    next => simp

/-- What is too great for the powers of ten is too great for the doubles. -/
theorem roundRatio_infinite {power : Nat} (positive : 0 < n) (high : greatestPower < power) :
    roundRatio (n * Nat.pow 10 power) 1 = infinite := by
  have limit : halfway (infinite - 1) < 2 * (greatest * 10 * stepsPerUnit) := by decide +kernel
  have order : greatest * 10 ≤ n * Nat.pow 10 power := by
    obtain ⟨more, rfl⟩ := Nat.exists_eq_add_of_le high
    rw [Nat.succ_add_eq_add_succ, power_above, ← Nat.add_one, Nat.add_comm more]
    calc greatest * 10 ≤ greatest * Nat.pow 10 (1 + more) :=
          Nat.mul_le_mul_left _ (Nat.pow_le_pow_right (n := 10) (by decide) (Nat.le_add_right 1 more))
      _ ≤ _ := Nat.le_mul_of_pos_left _ positive
  have scaled := Nat.mul_le_mul_right stepsPerUnit order
  have above : infinite - 1 < roundRatio (n * Nat.pow 10 power) 1 := by
    apply lt_roundRatio Nat.one_pos (by decide)
    omega
  have most : roundRatio (n * Nat.pow 10 power) 1 ≤ infinite := Nat.min_le_right ..
  omega

/-- What the reader makes of a decimal of at most seventeen digits is at most three doubles away from the nearest. -/
theorem scale_drift (small : n ≤ Nat.pow 10 17) (low : -342 ≤ exponent) :
    scaleByPower n exponent ≤ (Decimal.mk n exponent).magnitude + 3 ∧
      (Decimal.mk n exponent).magnitude ≤ scaleByPower n exponent + 3 := by
  by_cases zero : n = 0
  · rw [zero, scale_zero, magnitude_zero]
    exact ⟨by decide, by decide⟩
  have positive := Nat.pos_of_ne_zero zero
  have bounded : n ≤ greatest := Nat.le_trans small (power_le_greatest (by decide))
  cases exponent with
  | ofNat power =>
    by_cases inside : power ≤ greatestPower
    · rw [scaleByPower, if_pos inside]
      exact multiply_drift positive bounded inside
    · have value : (Decimal.mk n (.ofNat power)).magnitude = infinite :=
        roundRatio_infinite positive (Nat.not_le.mp inside)
      rw [scaleByPower, if_neg inside, if_neg zero, value]
      exact ⟨Nat.le_add_right .., Nat.le_add_right ..⟩
  | negSucc power =>
    by_cases inside : power + 1 ≤ greatestPower
    · rw [scaleByPower, divideByPower, if_pos inside]
      exact divide_drift positive bounded inside
    · have normal := (roundNat_normal positive bounded).1
      have nonzero : roundNat n ≠ 0 := Nat.ne_of_gt (Nat.lt_of_lt_of_le (by decide) normal)
      obtain ⟨more, rest⟩ := Nat.exists_eq_add_of_le (Nat.not_le.mp inside).le
      have second : more ≤ greatestPower := by
        simp only [greatestPower] at rest ⊢
        omega
      have value : (Decimal.mk n (.negSucc power)).magnitude = roundRatio n (greatest * Nat.pow 10 more) := by
        rw [← power_above, ← rest]
        rfl
      rw [scaleByPower, rest, divideByPower, if_neg (rest ▸ inside), if_neg nonzero, Nat.add_sub_cancel_left,
        divideByPower, if_pos second, value]
      exact twice_drift positive small second

end Scales

end ChefDsl.Proofs.NumeralScaling
