import ChefDsl.Proofs.FloatRounding
import Mathlib.Order.Monotone.Basic
import Mathlib.Tactic.Ring

/-! Rounding goes to a neighbour. The values of the magnitudes stand in blocks of equal spacing, each block with twice
the spacing of the one before it, and what is rounded to a magnitude lies between the halfways on its two sides.
Hence a ratio is rounded to a magnitude if it lies strictly between these halfways, the error of a rounding is at most
half the spacing, and rounding keeps the order of ratios. -/

namespace ChefDsl.Proofs.RoundingBounds
open Binary64 FloatRounding

theorem power_pos (power : Nat) : 0 < Nat.pow 10 power := Nat.pow_pos (by decide)

section Blocks

/-- Numbers of this many steps are a block of magnitudes, with one number for each of them. -/
theorem steps_block {doublings n : Nat} (low : doublings = 0 ∨ exponentWeight ≤ n) (high : n ≤ 2 * exponentWeight) :
    steps (doublings * exponentWeight + n) = n * Nat.pow 2 doublings := by
  have positive : 0 < exponentWeight := by decide
  by_cases small : n < exponentWeight
  · obtain rfl : doublings = 0 := low.resolve_right (Nat.not_le.mpr small)
    simp [steps, Nat.div_eq_of_lt small, Nat.mod_eq_of_lt small]
  obtain ⟨fraction, rfl⟩ := Nat.exists_eq_add_of_le (Nat.not_lt.mp small)
  by_cases inside : fraction < exponentWeight
  · have whole : doublings * exponentWeight + (exponentWeight + fraction) =
        exponentWeight * (doublings + 1) + fraction := by ring
    simp [steps, whole, Nat.mul_add_div positive, Nat.div_eq_of_lt inside, Nat.mod_eq_of_lt inside]
  · -- The end of a block is the first number of the next one.
    obtain rfl : fraction = exponentWeight := by omega
    have whole : doublings * exponentWeight + (exponentWeight + exponentWeight) = exponentWeight * (doublings + 2) := by
      ring
    have twice : Nat.pow 2 (doublings + 1) = Nat.pow 2 doublings * 2 := Nat.pow_succ ..
    simp only [steps, whole, Nat.mul_div_cancel_left _ positive, Nat.mul_mod_right, Nat.add_zero]
    rw [if_neg (by omega), show doublings + 2 - 1 = doublings + 1 by omega, twice]
    ring

private theorem exists_block (magnitude : Nat) : ∃ doublings n, magnitude = doublings * exponentWeight + n ∧
    (doublings = 0 ∨ exponentWeight ≤ n) ∧ n < 2 * exponentWeight := by
  have split := Nat.div_add_mod magnitude exponentWeight
  have bounded : magnitude % exponentWeight < exponentWeight := Nat.mod_lt _ (by decide)
  cases field : magnitude / exponentWeight with
  | zero =>
    rw [field, Nat.mul_zero, Nat.zero_add] at split
    exact ⟨0, magnitude, by simp, .inl rfl, by omega⟩
  | succ doublings =>
    rw [field, Nat.mul_succ, Nat.mul_comm] at split
    exact ⟨doublings, exponentWeight + magnitude % exponentWeight, by omega, .inr (by omega), by omega⟩

/-- The steps from the value of a magnitude to that of the next one. -/
def spacing (magnitude : Nat) : Nat := Nat.pow 2 (magnitude / exponentWeight - 1)

theorem spacing_pos (magnitude : Nat) : 0 < spacing magnitude := Nat.two_pow_pos _

private theorem spacing_block {doublings n : Nat} (low : doublings = 0 ∨ exponentWeight ≤ n)
    (high : n < 2 * exponentWeight) :
    spacing (doublings * exponentWeight + n) = Nat.pow 2 doublings := by
  have positive : 0 < exponentWeight := by decide
  have field : (doublings * exponentWeight + n) / exponentWeight - 1 = doublings := by
    rw [Nat.add_comm, Nat.add_mul_div_right _ _ positive]
    rcases low with rfl | low
    · have : n / exponentWeight < 2 := Nat.div_lt_of_lt_mul (by omega)
      omega
    · have : n / exponentWeight = 1 := Nat.div_eq_of_lt_le (by omega) (by omega)
      omega
  rw [spacing, field]

theorem steps_succ (magnitude : Nat) : steps (magnitude + 1) = steps magnitude + spacing magnitude := by
  obtain ⟨doublings, n, rfl, low, high⟩ := exists_block magnitude
  rw [spacing_block low high, steps_block low (by omega), Nat.add_assoc,
    steps_block (low.imp_right (by omega)) (by omega), Nat.add_mul, Nat.one_mul]

theorem spacing_mono : Monotone spacing := by
  intro first second order
  have fields : first / exponentWeight ≤ second / exponentWeight := Nat.div_le_div_right order
  exact Nat.pow_le_pow_right (by decide) (by omega)

theorem steps_strictMono : StrictMono steps :=
  strictMono_nat_of_lt_succ fun magnitude => by
    have positive := spacing_pos magnitude
    rw [steps_succ]
    omega

theorem steps_pos {magnitude : Nat} (positive : 0 < magnitude) : 0 < steps magnitude :=
  steps_strictMono positive

/-- The leading bit of a magnitude is at most 52 places above its last one. -/
theorem steps_lt_spacing (magnitude : Nat) : steps magnitude + spacing magnitude ≤
    2 * exponentWeight * spacing magnitude := by
  obtain ⟨doublings, n, rfl, low, high⟩ := exists_block magnitude
  rw [spacing_block low high, steps_block low (by omega), ← Nat.succ_mul]
  exact Nat.mul_le_mul_right _ high

/-- From the least normal magnitude on, the leading bit is 52 places above the last one. -/
theorem spacing_le_steps {magnitude : Nat} (normal : exponentWeight ≤ magnitude) :
    exponentWeight * spacing magnitude ≤ steps magnitude := by
  obtain ⟨doublings, n, rfl, low, high⟩ := exists_block magnitude
  rw [spacing_block low high, steps_block low (by omega)]
  apply Nat.mul_le_mul_right
  rcases low with rfl | low
  · omega
  · exact low

end Blocks

section Rounding

/-- Twice the value halfway between a magnitude and the next one. -/
def halfway (magnitude : Nat) : Nat := steps magnitude + steps (magnitude + 1)

private theorem halfway_mono : Monotone halfway := by
  intro first second order
  have lower := steps_strictMono.monotone order
  have upper := steps_strictMono.monotone (Nat.succ_le_succ order)
  exact Nat.add_le_add lower upper

theorem halfway_eq (magnitude : Nat) : halfway magnitude = 2 * steps magnitude + spacing magnitude := by
  rw [halfway, steps_succ]
  omega

private theorem nearest_bounds (numerator : Nat) {denominator : Nat} (positive : 0 < denominator) :
    2 * (nearest numerator denominator * denominator) ≤ 2 * numerator + denominator ∧
      2 * numerator ≤ 2 * (nearest numerator denominator * denominator) + denominator := by
  have split := Nat.div_add_mod' numerator denominator
  have small := Nat.mod_lt numerator positive
  have parity : numerator / denominator % 2 = 0 ∨ numerator / denominator % 2 = 1 := Nat.mod_two_eq_zero_or_one _
  simp only [nearest]
  split
  · omega
  split
  · rw [Nat.add_mul]
    omega
  · rcases parity with even | odd
    · rw [even, Nat.add_zero]
      omega
    · rw [odd, Nat.add_mul]
      omega

private theorem nearest_le {numerator denominator bound : Nat} (positive : 0 < denominator)
    (below : numerator < bound * denominator) : nearest numerator denominator ≤ bound := by
  have bounds := (nearest_bounds numerator positive).1
  by_contra above
  have more : (bound + 1) * denominator ≤ nearest numerator denominator * denominator :=
    Nat.mul_le_mul_right _ (by omega)
  rw [Nat.add_mul] at more
  omega

private theorem le_nearest {numerator denominator bound : Nat} (positive : 0 < denominator)
    (above : bound * denominator ≤ numerator) : bound ≤ nearest numerator denominator := by
  have bounds := (nearest_bounds numerator positive).2
  by_contra below
  have less : (nearest numerator denominator + 1) * denominator ≤ bound * denominator :=
    Nat.mul_le_mul_right _ (by omega)
  rw [Nat.add_mul] at less
  omega

/-- The number that counts the steps of a ratio at its own spacing, and the spacing. -/
theorem exists_scale (scaled : Nat) {denominator : Nat} (positive : 0 < denominator) :
    ∃ doublings, doublings = (scaled / denominator).log2 - 52 ∧
      scaled < 2 * exponentWeight * (denominator * Nat.pow 2 doublings) ∧
      (doublings = 0 ∨ exponentWeight * (denominator * Nat.pow 2 doublings) ≤ scaled) := by
  have weight : exponentWeight = 2 ^ 52 := rfl
  refine ⟨_, rfl, ?_, ?_⟩
  · have above : scaled / denominator < 2 ^ ((scaled / denominator).log2 - 52 + 53) :=
      Nat.lt_of_lt_of_le Nat.lt_log2_self (Nat.pow_le_pow_right (by decide) (by omega))
    rw [Nat.div_lt_iff_lt_mul positive, Nat.pow_add] at above
    rw [weight, Nat.pow_eq]
    calc scaled < _ := above
      _ = _ := by ring
  · by_cases small : (scaled / denominator).log2 ≤ 52
    · exact .inl (by omega)
    · have nonzero : scaled / denominator ≠ 0 := by
        intro zero
        simp [zero] at small
      have below : 2 ^ ((scaled / denominator).log2 - 52 + 52) ≤ scaled / denominator := by
        rw [Nat.sub_add_cancel (by omega)]
        exact Nat.log2_self_le nonzero
      rw [Nat.le_div_iff_mul_le positive, Nat.pow_add] at below
      rw [weight, Nat.pow_eq]
      right
      calc _ = _ := by ring
        _ ≤ scaled := below

private theorem halfway_block {doublings n : Nat} (low : doublings = 0 ∨ exponentWeight ≤ n)
    (high : n < 2 * exponentWeight) :
    halfway (doublings * exponentWeight + n) = (2 * n + 1) * Nat.pow 2 doublings := by
  rw [halfway_eq, steps_block low (by omega), spacing_block low high]
  ring

section Neighbours
variable {scaled denominator doublings n magnitude : Nat}

private theorem halfway_le_of_lt (most : n ≤ 2 * exponentWeight)
    (low : doublings = 0 ∨ exponentWeight * (denominator * Nat.pow 2 doublings) ≤ scaled)
    (least : doublings = 0 ∨ exponentWeight ≤ n)
    (error : 2 * (n * (denominator * Nat.pow 2 doublings)) ≤ 2 * scaled + denominator * Nat.pow 2 doublings)
    (less : magnitude < doublings * exponentWeight + n) : halfway magnitude * denominator ≤ 2 * scaled := by
  by_cases inside : doublings = 0 ∨ exponentWeight < n
  · obtain ⟨before, rfl⟩ : ∃ before, n = before + 1 := by
      refine Nat.exists_eq_succ_of_ne_zero ?_
      rcases inside with rfl | inside <;> omega
    have order : halfway magnitude ≤ halfway (doublings * exponentWeight + before) := halfway_mono (by omega)
    rw [halfway_block (inside.imp_right Nat.le_of_lt_succ) (by omega)] at order
    have scaledOrder := Nat.mul_le_mul_right denominator order
    have expand : 2 * ((before + 1) * (denominator * Nat.pow 2 doublings)) =
        (2 * before + 1) * Nat.pow 2 doublings * denominator + denominator * Nat.pow 2 doublings := by ring
    omega
  · -- At the start of a block the spacing below is the smaller one, but the ratio is not below the block.
    obtain rfl : n = exponentWeight := by omega
    have value := steps_block least most
    have order : halfway magnitude ≤ 2 * steps (doublings * exponentWeight + exponentWeight) := by
      have first := steps_strictMono.monotone less.le
      have second := steps_strictMono.monotone (Nat.succ_le_of_lt less)
      rw [halfway, two_mul]
      exact Nat.add_le_add first second
    have scaledOrder := Nat.mul_le_mul_right denominator order
    have expand : 2 * steps (doublings * exponentWeight + exponentWeight) * denominator =
        2 * (exponentWeight * (denominator * Nat.pow 2 doublings)) := by
      rw [value]
      ring
    have above := low.resolve_left (by omega)
    omega

private theorem le_halfway_of_le (most : n ≤ 2 * exponentWeight)
    (high : scaled < 2 * exponentWeight * (denominator * Nat.pow 2 doublings))
    (least : doublings = 0 ∨ exponentWeight ≤ n)
    (error : 2 * scaled ≤ 2 * (n * (denominator * Nat.pow 2 doublings)) + denominator * Nat.pow 2 doublings)
    (more : doublings * exponentWeight + n ≤ magnitude) : 2 * scaled ≤ halfway magnitude * denominator := by
  have order := Nat.mul_le_mul_right denominator (halfway_mono more)
  refine Nat.le_trans ?_ order
  by_cases inside : n < 2 * exponentWeight
  · rw [halfway_block least inside]
    calc 2 * scaled ≤ _ := error
      _ = _ := by ring
  · obtain rfl : n = 2 * exponentWeight := by omega
    have value := steps_block least most
    rw [halfway_eq, value]
    calc 2 * scaled ≤ 2 * (2 * exponentWeight * (denominator * Nat.pow 2 doublings)) := by omega
      _ = 2 * (2 * exponentWeight * Nat.pow 2 doublings) * denominator := by ring
      _ ≤ _ := Nat.mul_le_mul_right _ (Nat.le_add_right ..)

end Neighbours

/-- A ratio lies between the halfways on the two sides of what it is rounded to. -/
theorem exists_rounded (numerator : Nat) {denominator : Nat} (positive : 0 < denominator) :
    ∃ rounded, roundRatio numerator denominator = min rounded infinite ∧
      (∀ magnitude < rounded, halfway magnitude * denominator ≤ 2 * (numerator * stepsPerUnit)) ∧
      (∀ magnitude, rounded ≤ magnitude → 2 * (numerator * stepsPerUnit) ≤ halfway magnitude * denominator) := by
  obtain ⟨doublings, scale, high, low⟩ := exists_scale (numerator * stepsPerUnit) positive
  have unit : 0 < denominator * Nat.pow 2 doublings := Nat.mul_pos positive (Nat.two_pow_pos doublings)
  have most := nearest_le unit high
  have least := low.imp_right (le_nearest unit)
  obtain ⟨upper, lower⟩ := nearest_bounds (numerator * stepsPerUnit) unit
  refine ⟨doublings * exponentWeight + nearest (numerator * stepsPerUnit) (denominator * Nat.pow 2 doublings),
    ?_, ?_, ?_⟩
  · rw [roundRatio, scale]
  · intro magnitude less
    exact halfway_le_of_lt most low least upper less
  · intro magnitude more
    exact le_halfway_of_le most high least lower more

section Ratios
variable {numerator denominator magnitude : Nat}

theorem roundRatio_le (positive : 0 < denominator)
    (below : 2 * (numerator * stepsPerUnit) < halfway magnitude * denominator) :
    roundRatio numerator denominator ≤ magnitude := by
  obtain ⟨rounded, same, lower, _⟩ := exists_rounded numerator positive
  by_contra above
  have order := lower magnitude (by omega)
  omega

theorem lt_roundRatio (positive : 0 < denominator) (finite : magnitude < infinite)
    (above : halfway magnitude * denominator < 2 * (numerator * stepsPerUnit)) :
    magnitude < roundRatio numerator denominator := by
  obtain ⟨rounded, same, _, upper⟩ := exists_rounded numerator positive
  by_contra below
  have order := upper magnitude (by omega)
  omega

theorem le_halfway (positive : 0 < denominator) (finite : roundRatio numerator denominator < infinite) :
    2 * (numerator * stepsPerUnit) ≤ halfway (roundRatio numerator denominator) * denominator := by
  obtain ⟨rounded, same, _, upper⟩ := exists_rounded numerator positive
  exact upper _ (by omega)

theorem halfway_le (positive : 0 < denominator) (less : magnitude < roundRatio numerator denominator) :
    halfway magnitude * denominator ≤ 2 * (numerator * stepsPerUnit) := by
  obtain ⟨rounded, same, lower, _⟩ := exists_rounded numerator positive
  exact lower _ (by omega)

end Ratios

/-- Rounding keeps the order of ratios. -/
theorem roundRatio_mono {first second below above : Nat} (positive : 0 < below) (also : 0 < above)
    (order : first * above ≤ second * below) : roundRatio first below ≤ roundRatio second above := by
  by_contra less
  rw [Nat.not_le] at less
  have bounded : roundRatio first below ≤ infinite := Nat.min_le_right ..
  have high := Nat.mul_le_mul_right below (le_halfway also (Nat.lt_of_lt_of_le less bounded))
  have low := Nat.mul_le_mul_right above (halfway_le positive less)
  have scaled := Nat.mul_le_mul_right stepsPerUnit order
  -- Both ratios would be the same halfway, and a ratio is rounded in one way only.
  have same : first * above * stepsPerUnit = second * below * stepsPerUnit := by
    have one : 2 * (second * stepsPerUnit) * below = 2 * (second * below * stepsPerUnit) := by ring
    have other : 2 * (first * stepsPerUnit) * above = 2 * (first * above * stepsPerUnit) := by ring
    have middle : halfway (roundRatio second above) * above * below =
        halfway (roundRatio second above) * below * above := Nat.mul_right_comm ..
    omega
  have equal := roundRatio_scaled first below also
  rw [Nat.eq_of_mul_eq_mul_right stepsPerUnit_pos same, Nat.mul_comm below, roundRatio_scaled _ _ positive] at equal
  exact Nat.ne_of_lt less equal

end Rounding

end ChefDsl.Proofs.RoundingBounds
