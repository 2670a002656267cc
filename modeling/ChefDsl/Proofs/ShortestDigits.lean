import ChefDsl.Proofs.RoundingBounds

/-! The shortest decimal of a double has at most seventeen digits. A grid of seventeen digits is finer than the doubles,
so the nearer of the two neighbours that a double has on it is nearer to this double than to any other one. -/

namespace ChefDsl.Proofs.ShortestDigits
open Binary64 Decimal FloatRounding RoundingBounds

section Grid
variable {magnitude dropped count : Nat} {decimal : Decimal}

private theorem magnitude_below : (below magnitude dropped).magnitude =
    roundRatio ((below magnitude dropped).digits * Nat.pow 10 dropped) (Nat.pow 10 places) :=
  magnitude_ratio _ dropped places rfl

private theorem magnitude_above : (above magnitude dropped).magnitude =
    roundRatio (((below magnitude dropped).digits + 1) * Nat.pow 10 dropped) (Nat.pow 10 places) :=
  magnitude_ratio _ dropped places rfl

private theorem below_le (magnitude dropped : Nat) :
    (below magnitude dropped).digits * Nat.pow 10 dropped * stepsPerUnit ≤
    steps magnitude * Nat.pow 10 places := by
  have cut : (below magnitude dropped).digits * Nat.pow 10 dropped ≤ scaled magnitude := Nat.div_mul_le_self ..
  calc _ ≤ scaled magnitude * stepsPerUnit := Nat.mul_le_mul_right _ cut
    _ ≤ _ := Nat.div_mul_le_self ..

private theorem lt_above (magnitude dropped : Nat) : steps magnitude * Nat.pow 10 places <
    ((below magnitude dropped).digits + 1) * Nat.pow 10 dropped * stepsPerUnit := by
  have cut : scaled magnitude < ((below magnitude dropped).digits + 1) * Nat.pow 10 dropped :=
    Nat.lt_mul_of_div_lt (Nat.lt_succ_self _) (power_pos dropped)
  calc _ < (scaled magnitude + 1) * stepsPerUnit := Nat.lt_mul_of_div_lt (Nat.lt_succ_self _) stepsPerUnit_pos
    _ ≤ _ := Nat.mul_le_mul_right _ cut

/-- Not both neighbours on a grid can lie beyond the halfways if the grid is finer than the doubles. -/
theorem neighbour_inside (fine : Nat.pow 10 16 ≤ (below (magnitude + 1) dropped).digits) :
    2 * (((below (magnitude + 1) dropped).digits + 1) * Nat.pow 10 dropped * stepsPerUnit) <
        halfway (magnitude + 1) * Nat.pow 10 places ∨
      halfway magnitude * Nat.pow 10 places <
        2 * ((below (magnitude + 1) dropped).digits * Nat.pow 10 dropped * stepsPerUnit) := by
  by_contra outside
  obtain ⟨high, low⟩ := not_or.mp outside
  have under := below_le (magnitude + 1) dropped
  generalize (below (magnitude + 1) dropped).digits = digits at *
  have grid : 0 < Nat.pow 10 dropped * stepsPerUnit := Nat.mul_pos (power_pos dropped) stepsPerUnit_pos
  have apart : halfway magnitude + 2 * spacing magnitude ≤ halfway (magnitude + 1) := by
    have order := spacing_mono (Nat.le_add_right magnitude 1)
    rw [halfway_eq, halfway_eq, steps_succ]
    omega
  have value : steps (magnitude + 1) ≤ 2 * exponentWeight * spacing magnitude := by
    rw [steps_succ]
    exact steps_lt_spacing magnitude
  -- The halfways are closer to each other than the neighbours, but sixteen digits above the grid there is no room.
  have close : spacing magnitude * Nat.pow 10 places ≤ Nat.pow 10 dropped * stepsPerUnit := by
    have scaledApart := Nat.mul_le_mul_right (Nat.pow 10 places) apart
    have expand : 2 * ((digits + 1) * Nat.pow 10 dropped * stepsPerUnit) =
        2 * (digits * Nat.pow 10 dropped * stepsPerUnit) + 2 * (Nat.pow 10 dropped * stepsPerUnit) := by ring
    have spread : (halfway magnitude + 2 * spacing magnitude) * Nat.pow 10 places =
        halfway magnitude * Nat.pow 10 places + 2 * (spacing magnitude * Nat.pow 10 places) := by ring
    omega
  have many : Nat.pow 10 16 * (Nat.pow 10 dropped * stepsPerUnit) ≤
      2 * exponentWeight * (Nat.pow 10 dropped * stepsPerUnit) := by
    calc _ ≤ digits * (Nat.pow 10 dropped * stepsPerUnit) := Nat.mul_le_mul_right _ fine
      _ = digits * Nat.pow 10 dropped * stepsPerUnit := by ring
      _ ≤ steps (magnitude + 1) * Nat.pow 10 places := under
      _ ≤ 2 * exponentWeight * spacing magnitude * Nat.pow 10 places := Nat.mul_le_mul_right _ value
      _ = 2 * exponentWeight * (spacing magnitude * Nat.pow 10 places) := by ring
      _ ≤ _ := Nat.mul_le_mul_left _ close
  have few := Nat.le_of_mul_le_mul_right many grid
  exact absurd few (by decide)

private theorem magnitude_neighbour (finite : magnitude + 1 < infinite)
    (fine : Nat.pow 10 16 ≤ (below (magnitude + 1) dropped).digits) :
    (below (magnitude + 1) dropped).magnitude = magnitude + 1 ∨
      (above (magnitude + 1) dropped).magnitude = magnitude + 1 := by
  have unit : 0 < Nat.pow 10 places := power_pos places
  have under := below_le (magnitude + 1) dropped
  have beyond := lt_above (magnitude + 1) dropped
  have start : halfway magnitude * Nat.pow 10 places ≤ 2 * (steps (magnitude + 1) * Nat.pow 10 places) := by
    have order := steps_strictMono.monotone (Nat.le_add_right magnitude 1)
    rw [← Nat.mul_assoc]
    exact Nat.mul_le_mul_right _ (by rw [halfway]; omega)
  have stop : 2 * (steps (magnitude + 1) * Nat.pow 10 places) < halfway (magnitude + 1) * Nat.pow 10 places := by
    rw [← Nat.mul_assoc]
    apply (Nat.mul_lt_mul_right unit).mpr
    have positive := spacing_pos (magnitude + 1)
    rw [halfway_eq]
    omega
  rw [magnitude_below, magnitude_above]
  rcases neighbour_inside fine with inside | inside
  · right
    apply Nat.le_antisymm (roundRatio_le unit inside)
    exact lt_roundRatio unit (by omega) (by omega)
  · left
    apply Nat.le_antisymm (roundRatio_le unit (by omega))
    exact lt_roundRatio unit (by omega) inside

/-- No decimal of so few digits lies between the neighbours on a grid. -/
theorem neighbour_between (up down : Nat) (few : decimal.digits < Nat.pow 10 (count + 1))
    (fine : Nat.pow 10 count ≤ (below magnitude dropped).digits) :
    decimal.digits * Nat.pow 10 up ≤ (below magnitude dropped).digits * Nat.pow 10 down ∨
      ((below magnitude dropped).digits + 1) * Nat.pow 10 down ≤ decimal.digits * Nat.pow 10 up := by
  generalize (below magnitude dropped).digits = low at *
  have sum (first second : Nat) : Nat.pow 10 (first + second) = Nat.pow 10 first * Nat.pow 10 second :=
    Nat.pow_add 10 first second
  rcases Nat.lt_or_ge up down with finer | coarser
  · -- The decimal is smaller than any number with so many digits on the grid.
    left
    have least : Nat.pow 10 (up + 1) ≤ Nat.pow 10 down := Nat.pow_le_pow_right (by decide) finer
    calc decimal.digits * Nat.pow 10 up ≤ Nat.pow 10 (count + 1) * Nat.pow 10 up := Nat.mul_le_mul_right _ few.le
      _ = Nat.pow 10 count * Nat.pow 10 (up + 1) := by rw [← sum, ← sum, Nat.add_right_comm, Nat.add_assoc]
      _ ≤ low * Nat.pow 10 down := Nat.mul_le_mul fine least
  · -- The decimal stands on the grid.
    obtain ⟨extra, rfl⟩ := Nat.exists_eq_add_of_le' coarser
    rw [sum, ← Nat.mul_assoc]
    rcases Nat.lt_or_ge low (decimal.digits * Nat.pow 10 extra) with above | under
    · exact .inr (Nat.mul_le_mul_right _ above)
    · exact .inl (Nat.mul_le_mul_right _ under)

private theorem below_magnitude_le (finite : magnitude < infinite) :
    (below magnitude dropped).magnitude ≤ magnitude := by
  rw [magnitude_below]
  calc _ ≤ roundRatio (steps magnitude) stepsPerUnit :=
        roundRatio_mono (power_pos _) stepsPerUnit_pos (below_le magnitude dropped)
    _ = magnitude := roundRatio_steps finite

private theorem le_above_magnitude (finite : magnitude < infinite) :
    magnitude ≤ (above magnitude dropped).magnitude := by
  rw [magnitude_above]
  calc magnitude = roundRatio (steps magnitude) stepsPerUnit := (roundRatio_steps finite).symm
    _ ≤ _ := roundRatio_mono stepsPerUnit_pos (power_pos _) (lt_above magnitude dropped).le

/-- If a decimal of so few digits reads back, then so does a neighbour on the grid, for it lies closer. -/
theorem magnitude_closer (finite : magnitude < infinite) (reads : decimal.magnitude = magnitude)
    (few : decimal.digits < Nat.pow 10 (count + 1)) (fine : Nat.pow 10 count ≤ (below magnitude dropped).digits) :
    (below magnitude dropped).magnitude = magnitude ∨ (above magnitude dropped).magnitude = magnitude := by
  have ratio := magnitude_ratio decimal decimal.exponent.toNat (-decimal.exponent).toNat (by omega)
  have sum (first second : Nat) : Nat.pow 10 (first + second) = Nat.pow 10 first * Nat.pow 10 second :=
    Nat.pow_add 10 first second
  rw [reads] at ratio
  rcases neighbour_between (decimal.exponent.toNat + places) (dropped + (-decimal.exponent).toNat) few fine with
    under | beyond
  · left
    rw [sum, sum, ← Nat.mul_assoc, ← Nat.mul_assoc] at under
    apply Nat.le_antisymm (below_magnitude_le finite)
    calc magnitude = _ := ratio
      _ ≤ _ := roundRatio_mono (power_pos _) (power_pos places) under
      _ = _ := magnitude_below.symm
  · right
    rw [sum, sum, ← Nat.mul_assoc, ← Nat.mul_assoc] at beyond
    refine Nat.le_antisymm ?_ (le_above_magnitude finite)
    calc _ = _ := magnitude_above
      _ ≤ _ := roundRatio_mono (power_pos places) (power_pos _) beyond
      _ = magnitude := ratio.symm

private theorem onGrid_of_neighbour (tie : Tie) (neighbour : (below magnitude dropped).magnitude = magnitude ∨
    (above magnitude dropped).magnitude = magnitude) : ∃ decimal, onGrid? tie magnitude dropped = some decimal := by
  unfold onGrid?
  dsimp only
  split
  · exact ⟨_, rfl⟩
  next leaning =>
    have other : (above magnitude dropped).magnitude = magnitude := by
      by_contra none
      exact leaning ⟨neighbour.resolve_right none, .inr none⟩
    exact ⟨_, if_pos other⟩

private theorem exists_onGrid (tie : Tie) (positive : 0 < magnitude) (finite : magnitude < infinite)
    (fine : Nat.pow 10 16 ≤ (below magnitude dropped).digits) :
    ∃ decimal, onGrid? tie magnitude dropped = some decimal := by
  obtain ⟨before, rfl⟩ := Nat.exists_eq_add_of_lt positive
  simp only [Nat.zero_add] at *
  exact onGrid_of_neighbour tie (magnitude_neighbour finite fine)

private theorem digits_of_onGrid {tie : Tie} (found : onGrid? tie magnitude dropped = some decimal) :
    decimal.digits ≤ scaled magnitude / Nat.pow 10 dropped + 1 ∧ decimal.exponent = dropped - places := by
  simp only [onGrid?] at found
  split at found
  next =>
    cases found
    exact ⟨Nat.le_succ _, rfl⟩
  next =>
    split at found
    next =>
      cases found
      exact ⟨Nat.le_refl _, rfl⟩
    next => cases found

end Grid

section Lengths
variable {magnitude : Nat}

private theorem scaled_ge (positive : 0 < magnitude) : Nat.pow 10 18 ≤ scaled magnitude := by
  have least : Nat.pow 10 18 * stepsPerUnit ≤ Nat.pow 10 places := by decide +kernel
  rw [scaled, Nat.le_div_iff_mul_le stepsPerUnit_pos]
  exact Nat.le_trans least (Nat.le_mul_of_pos_left _ (steps_pos positive))

private theorem length_scaled_le {bound : Nat} (some : 0 < bound) (finite : magnitude < infinite)
    (limit : steps infinite * Nat.pow 10 places ≤ Nat.pow 10 bound * stepsPerUnit) :
    (Nat.toDigits 10 (scaled magnitude)).length ≤ bound := by
  have order := steps_strictMono finite
  apply (Nat.length_toDigits_le_iff (by decide) some).mpr
  apply (Nat.div_lt_iff_lt_mul stepsPerUnit_pos).mpr
  exact Nat.lt_of_lt_of_le ((Nat.mul_lt_mul_right (power_pos places)).mpr order) limit

/-- The digits of a scaled value that is neither zero nor infinite. -/
theorem length_scaled (positive : 0 < magnitude) (finite : magnitude < infinite) :
    18 < (Nat.toDigits 10 (scaled magnitude)).length ∧ (Nat.toDigits 10 (scaled magnitude)).length ≤ 651 := by
  constructor
  · by_contra short
    rw [Nat.not_lt, Nat.length_toDigits_le_iff (by decide) (by decide), ← Nat.pow_eq] at short
    exact absurd (scaled_ge positive) (Nat.not_le.mpr short)
  · exact length_scaled_le (by decide) finite (by decide +kernel)

end Lengths

/-- The digits that are left of a number once all but `count` of them are cut off. -/
theorem cut_bounds {value length : Nat} (count : Nat) (digits : (Nat.toDigits 10 value).length = length)
    (inside : count + 1 < length) : Nat.pow 10 count ≤ value / Nat.pow 10 (length - (count + 1)) ∧
      value / Nat.pow 10 (length - (count + 1)) < Nat.pow 10 (count + 1) := by
  have sum (first second : Nat) : Nat.pow 10 (first + second) = Nat.pow 10 first * Nat.pow 10 second :=
    Nat.pow_add 10 first second
  constructor
  · have long : ¬ (Nat.toDigits 10 value).length ≤ length - 1 := by omega
    rw [Nat.length_toDigits_le_iff (by decide) (by omega), ← Nat.pow_eq, Nat.not_lt] at long
    rw [Nat.le_div_iff_mul_le (power_pos _), ← sum, show count + (length - (count + 1)) = length - 1 by omega]
    exact long
  · have short : (Nat.toDigits 10 value).length ≤ length := by omega
    rw [Nat.length_toDigits_le_iff (by decide) (by omega), ← Nat.pow_eq] at short
    rw [Nat.div_lt_iff_lt_mul (power_pos _), ← sum, show count + 1 + (length - (count + 1)) = length by omega]
    exact short

/-- The search for the shortest decimal ends on the first grid that has one. -/
theorem shortest_onGrid (tie : Tie) {magnitude length : Nat} (positive : 0 < magnitude) (finite : magnitude < infinite)
    (digits : (Nat.toDigits 10 (scaled magnitude)).length = length) :
    ∃ count < 17, onGrid? tie magnitude (length - (count + 1)) = some (shortest tie magnitude) ∧
      ∀ fewer < count, onGrid? tie magnitude (length - (fewer + 1)) = none := by
  have long := (length_scaled positive finite).1
  rw [shortest, if_neg (Nat.ne_of_gt positive)]
  dsimp only
  rw [digits] at long ⊢
  generalize search : List.findSome? _ _ = found
  cases found with
  | none =>
    have fine := (cut_bounds 16 digits (by omega)).1
    obtain ⟨decimal, found⟩ := exists_onGrid tie positive finite fine
    have none := List.findSome?_eq_none_iff.mp search 17 (by simp)
    rw [found] at none
    cases none
  | some decimal =>
    obtain ⟨before, count, after, split, found, none⟩ := List.findSome?_eq_some_iff.mp search
    obtain ⟨tried, few, rfl, rest⟩ := List.range'_eq_append_iff.mp split
    obtain ⟨rfl, some, _⟩ := List.range'_eq_cons_iff.mp rest.symm
    refine ⟨tried, by omega, ?_, ?_⟩
    · rw [Nat.mul_one, Nat.add_comm] at found
      exact found
    · intro fewer less
      exact none (fewer + 1) (List.mem_range'_1.mpr (by omega))

/-- The shortest decimal has at most seventeen digits unless it is a one with zeros. -/
theorem shortest_bounds (tie : Tie) {magnitude : Nat} (positive : 0 < magnitude) (finite : magnitude < infinite) :
    (shortest tie magnitude).digits ≤ Nat.pow 10 17 ∧ -342 ≤ (shortest tie magnitude).exponent ∧
      (shortest tie magnitude).exponent ≤ 308 := by
  obtain ⟨long, short⟩ := length_scaled positive finite
  obtain ⟨length, same⟩ : ∃ length, (Nat.toDigits 10 (scaled magnitude)).length = length := ⟨_, rfl⟩
  rw [same] at long short
  obtain ⟨count, small, found, _⟩ := shortest_onGrid tie positive finite same
  obtain ⟨digits, exponent⟩ := digits_of_onGrid found
  have few := (cut_bounds count same (by omega)).2
  have most : Nat.pow 10 (count + 1) ≤ Nat.pow 10 17 := Nat.pow_le_pow_right (by decide) small
  refine ⟨Nat.le_trans digits (Nat.le_trans few most), ?_, ?_⟩
  · rw [exponent, places]
    omega
  · rw [exponent, places]
    omega

/-- No decimal with fewer digits reads back as the same double, for the search would have ended before. The bound itself
is a one with zeros. -/
theorem shortest_fewest (tie : Tie) {decimal : Decimal} {count : Nat} (finite : decimal.magnitude < infinite)
    (few : decimal.digits < Nat.pow 10 count) : (shortest tie decimal.magnitude).digits ≤ Nat.pow 10 count := by
  rcases Nat.eq_zero_or_pos decimal.magnitude with zero | positive
  · rw [zero]
    exact Nat.zero_le _
  cases count with
  | zero => exact absurd (Nat.lt_one_iff.mp few) (digits_of_magnitude positive)
  | succ count =>
    have order {fewer : Nat} (less : fewer ≤ count + 1) : Nat.pow 10 fewer ≤ Nat.pow 10 (count + 1) :=
      Nat.pow_le_pow_right (by decide) less
    by_cases many : 17 ≤ count + 1
    · exact Nat.le_trans (shortest_bounds tie positive finite).1 (order many)
    have long := (length_scaled positive finite).1
    obtain ⟨length, same⟩ : ∃ length, (Nat.toDigits 10 (scaled decimal.magnitude)).length = length := ⟨_, rfl⟩
    rw [same] at long
    obtain ⟨tried, small, found, none⟩ := shortest_onGrid tie positive finite same
    have early : tried ≤ count := by
      by_contra later
      have fine := (cut_bounds count same (by omega)).1
      obtain ⟨other, ends⟩ := onGrid_of_neighbour tie (magnitude_closer finite rfl few fine)
      rw [none count (by omega)] at ends
      cases ends
    have digits := (digits_of_onGrid found).1
    have cut := (cut_bounds tried same (by omega)).2
    exact Nat.le_trans (Nat.le_trans digits cut) (order (by omega))

end ChefDsl.Proofs.ShortestDigits
