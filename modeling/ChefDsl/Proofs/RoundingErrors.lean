import ChefDsl.Proofs.RoundingBounds
import Mathlib.Data.Rat.Cast.Order
import Mathlib.Tactic.FieldSimp
import Mathlib.Tactic.Linarith
import Mathlib.Tactic.Positivity

/-! The errors of roundings. A rounding changes a normal number by at most one part in 2^53, products and quotients of
such numbers multiply the factors that are left, and where a few of them separate two numbers, the magnitudes that the
two are rounded to are at most three apart. -/

namespace ChefDsl.Proofs.RoundingErrors
open Binary64 FloatRounding RoundingBounds

/-- The exact value of a finite magnitude. -/
def value (magnitude : Nat) : ℚ := steps magnitude / stepsPerUnit

/-- The factor that is left of a normal number by one rounding, or more. -/
def kept : ℚ := 1 - 1 / 9007199254740992

/-- The factor of two roundings and a little more, for which three doubles are room enough. -/
def allowed : ℚ := 1 - 22 / 10 / 9007199254740992

/-- Two numbers, each of which is at least this part of the other. -/
structure Close (factor x y : ℚ) : Prop where
  le : x * factor ≤ y
  ge : y * factor ≤ x

section Closeness
variable {first second x y z w : ℚ}

theorem Close.symm (close : Close first x y) : Close first y x := ⟨close.ge, close.le⟩

theorem Close.trans (firsts : 0 ≤ first) (seconds : 0 ≤ second) (close : Close first x y) (next : Close second y z) :
    Close (first * second) x z := by
  constructor
  · calc x * (first * second) = x * first * second := by ring
      _ ≤ y * second := mul_le_mul_of_nonneg_right close.le seconds
      _ ≤ z := next.le
  · calc z * (first * second) = z * second * first := by ring
      _ ≤ y * first := mul_le_mul_of_nonneg_right next.ge firsts
      _ ≤ x := close.ge

theorem Close.scale (nonneg : 0 ≤ z) (close : Close first x y) : Close first (x * z) (y * z) := by
  constructor
  · calc x * z * first = x * first * z := by ring
      _ ≤ y * z := mul_le_mul_of_nonneg_right close.le nonneg
  · calc y * z * first = y * first * z := by ring
      _ ≤ x * z := mul_le_mul_of_nonneg_right close.ge nonneg

private theorem Close.inv (xs : 0 < x) (ys : 0 < y) (close : Close first x y) : Close first x⁻¹ y⁻¹ := by
  constructor
  · rw [inv_mul_le_iff₀ xs, le_mul_inv_iff₀ ys, mul_comm]
    exact close.ge
  · rw [inv_mul_le_iff₀ ys, le_mul_inv_iff₀ xs, mul_comm]
    exact close.le

theorem Close.mul (firsts : 0 ≤ first) (seconds : 0 ≤ second) (ys : 0 ≤ y) (zs : 0 ≤ z) (close : Close first x y)
    (other : Close second z w) : Close (first * second) (x * z) (y * w) := by
  have right := other.scale ys
  rw [mul_comm z, mul_comm w] at right
  exact (close.scale zs).trans firsts seconds right

theorem Close.div (firsts : 0 ≤ first) (seconds : 0 ≤ second) (ys : 0 ≤ y) (zs : 0 < z) (ws : 0 < w)
    (close : Close first x y) (other : Close second z w) : Close (first * second) (x / z) (y / w) := by
  rw [div_eq_mul_inv, div_eq_mul_inv]
  exact close.mul firsts seconds ys (inv_pos.mpr zs).le (other.inv zs ws)

end Closeness

section Roundings
variable {numerator denominator : Nat}

theorem unit_pos : (0 : ℚ) < stepsPerUnit := Nat.cast_pos.mpr stepsPerUnit_pos

/-- The error of a rounding is at most half of the spacing on its side, here without denominators. -/
theorem rounding_bounds (positive : 0 < denominator) (finite : roundRatio numerator denominator < infinite) :
    (2 * (numerator * stepsPerUnit) : ℚ) ≤ (2 * steps (roundRatio numerator denominator) +
        spacing (roundRatio numerator denominator)) * denominator ∧
      (2 * steps (roundRatio numerator denominator) * denominator : ℚ) ≤
        2 * (numerator * stepsPerUnit) + spacing (roundRatio numerator denominator) * denominator := by
  have upper := le_halfway positive finite
  have lower (magnitude : Nat) := @halfway_le numerator denominator magnitude positive
  generalize roundRatio numerator denominator = rounded at *
  -- The casts are moved before the number of steps in a unit can be computed.
  generalize stepsPerUnit = unit at *
  constructor
  · rw [halfway_eq] at upper
    exact_mod_cast upper
  · cases rounded with
    | zero =>
      have zero : steps 0 = 0 := rfl
      rw [zero]
      norm_cast
      omega
    | succ before =>
      have under := lower before (Nat.lt_succ_self before)
      have order := Nat.mul_le_mul_right denominator (spacing_mono (Nat.le_add_right before 1))
      have start : 2 * steps (before + 1) * denominator =
          halfway before * denominator + spacing before * denominator := by
        rw [halfway_eq, steps_succ]
        ring
      norm_cast
      omega

/-- A normal number keeps the factor when it is rounded. -/
theorem close_roundRatio (positive : 0 < denominator) (normal : exponentWeight ≤ roundRatio numerator denominator)
    (finite : roundRatio numerator denominator < infinite) :
    Close kept (numerator / denominator) (value (roundRatio numerator denominator)) := by
  obtain ⟨upper, lower⟩ := rounding_bounds positive finite
  generalize roundRatio numerator denominator = rounded at *
  have room : (4503599627370496 * spacing rounded : ℚ) ≤ steps rounded := by exact_mod_cast spacing_le_steps normal
  have denominators : (0 : ℚ) < denominator := Nat.cast_pos.mpr positive
  have units := unit_pos
  have scaledRoom := mul_le_mul_of_nonneg_right room denominators.le
  have spaced : (0 : ℚ) ≤ spacing rounded * denominator := mul_nonneg (Nat.cast_nonneg _) denominators.le
  unfold value kept
  constructor
  · rw [le_div_iff₀ units, div_mul_eq_mul_div, div_mul_eq_mul_div, div_le_iff₀ denominators]
    linarith
  · rw [le_div_iff₀ denominators, div_mul_eq_mul_div, div_mul_eq_mul_div, div_le_iff₀ units]
    linarith

theorem kept_pos : 0 < kept := by
  norm_num [kept]

/-- Below the normal numbers the error is half a step at most. -/
theorem error_roundRatio (positive : 0 < denominator) (finite : roundRatio numerator denominator < infinite) :
    (numerator / denominator * stepsPerUnit * kept : ℚ) ≤ steps (roundRatio numerator denominator) + 1 / 2 ∧
      (steps (roundRatio numerator denominator) * kept : ℚ) ≤ numerator / denominator * stepsPerUnit + 1 / 2 := by
  have units := unit_pos
  by_cases normal : exponentWeight ≤ roundRatio numerator denominator
  · obtain ⟨lower, upper⟩ := close_roundRatio positive normal finite
    rw [value, le_div_iff₀ units] at lower
    rw [value, div_mul_eq_mul_div, div_le_iff₀ units] at upper
    constructor <;> linarith
  · obtain ⟨upper, lower⟩ := rounding_bounds positive finite
    have single : spacing (roundRatio numerator denominator) = 1 := by
      rw [spacing, Nat.div_eq_of_lt (Nat.not_le.mp normal)]
    have denominators : (0 : ℚ) < denominator := Nat.cast_pos.mpr positive
    rw [single, Nat.cast_one] at upper lower
    generalize roundRatio numerator denominator = rounded at *
    have numbers : (0 : ℚ) ≤ numerator / denominator * stepsPerUnit := by
      apply mul_nonneg (div_nonneg (Nat.cast_nonneg _) denominators.le) units.le
    have values : (0 : ℚ) ≤ steps rounded := Nat.cast_nonneg _
    have above : (numerator / denominator * stepsPerUnit : ℚ) ≤ steps rounded + 1 / 2 := by
      rw [div_mul_eq_mul_div, div_le_iff₀ denominators]
      linarith
    have below : (steps rounded : ℚ) ≤ numerator / denominator * stepsPerUnit + 1 / 2 := by
      rw [div_mul_eq_mul_div, ← sub_le_iff_le_add, le_div_iff₀ denominators]
      linarith
    unfold kept
    constructor <;> linarith

/-- Between a halfway and the third one behind it there is room for a few roundings and one step. -/
theorem halfway_room (magnitude : Nat) :
    (halfway magnitude : ℚ) + 1 < halfway (magnitude + 3) * allowed := by
  have apart : halfway magnitude + 6 * spacing magnitude ≤ halfway (magnitude + 3) := by
    have first := spacing_mono (Nat.le_add_right magnitude 1)
    have second := spacing_mono (Nat.le_add_right magnitude 2)
    have third := spacing_mono (Nat.le_add_right magnitude 3)
    rw [halfway_eq, halfway_eq, steps_succ, steps_succ, steps_succ]
    omega
  have bounded : halfway magnitude ≤ 4 * exponentWeight * spacing magnitude := by
    have room := steps_lt_spacing magnitude
    rw [halfway_eq]
    linarith
  have least := spacing_pos magnitude
  have apartRat : (halfway magnitude + 6 * spacing magnitude : ℚ) ≤ halfway (magnitude + 3) := by exact_mod_cast apart
  have boundedRat : (halfway magnitude : ℚ) ≤ 18014398509481984 * spacing magnitude := by exact_mod_cast bounded
  have leastRat : (1 : ℚ) ≤ spacing magnitude := by exact_mod_cast least
  unfold allowed
  linarith

/-- Ratios that differ by a few roundings and half a step are rounded to magnitudes at most three apart. -/
theorem roundRatio_drift {other scale : Nat} (positive : 0 < denominator) (also : 0 < scale)
    (near : (other / scale : ℚ) * stepsPerUnit * allowed ≤ numerator / denominator * stepsPerUnit + 1 / 2) :
    roundRatio other scale ≤ roundRatio numerator denominator + 3 := by
  by_cases finite : roundRatio numerator denominator < infinite
  · apply roundRatio_le also
    have upper := le_halfway positive finite
    have room := halfway_room (roundRatio numerator denominator)
    generalize roundRatio numerator denominator = rounded at *
    have scales : (0 : ℚ) < scale := Nat.cast_pos.mpr also
    have denominators : (0 : ℚ) < denominator := Nat.cast_pos.mpr positive
    have start : (numerator / denominator : ℚ) * stepsPerUnit ≤ halfway rounded / 2 := by
      rw [div_mul_eq_mul_div, div_le_div_iff₀ denominators two_pos]
      have cast := (Nat.cast_le : ((_ : Nat) : ℚ) ≤ _ ↔ _).mpr upper
      rw [Nat.cast_mul, Nat.cast_mul, Nat.cast_mul, Nat.cast_ofNat] at cast
      linarith
    have stop : (other / scale : ℚ) * stepsPerUnit < halfway (rounded + 3) / 2 := by
      unfold allowed at near room
      linarith
    rw [div_mul_eq_mul_div, div_lt_div_iff₀ scales two_pos] at stop
    apply (Nat.cast_lt : ((_ : Nat) : ℚ) < _ ↔ _).mp
    rw [Nat.cast_mul, Nat.cast_mul, Nat.cast_mul, Nat.cast_ofNat]
    linarith
  · have most : roundRatio other scale ≤ infinite := Nat.min_le_right ..
    omega

/-- Ratios of which each keeps the factor of two roundings and a little less. -/
theorem apart_of_close {other scale : Nat} {factor : ℚ} (positive : 0 < denominator) (also : 0 < scale)
    (room : allowed ≤ factor)
    (close : Close factor (numerator / denominator) (other / scale)) :
    roundRatio other scale ≤ roundRatio numerator denominator + 3 ∧
      roundRatio numerator denominator ≤ roundRatio other scale + 3 := by
  have units := unit_pos
  have apart {x y : ℚ} (nonneg : 0 ≤ x) (le : x * factor ≤ y) :
      x * stepsPerUnit * allowed ≤ y * stepsPerUnit + 1 / 2 := by
    have most := mul_le_mul_of_nonneg_left room (mul_nonneg nonneg units.le)
    have scaled := mul_le_mul_of_nonneg_right le units.le
    linarith
  constructor
  · exact roundRatio_drift positive also (apart (div_nonneg (Nat.cast_nonneg _) (Nat.cast_nonneg _)) close.ge)
  · exact roundRatio_drift also positive (apart (div_nonneg (Nat.cast_nonneg _) (Nat.cast_nonneg _)) close.le)

end Roundings

end ChefDsl.Proofs.RoundingErrors
