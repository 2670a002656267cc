import ChefDsl.Proofs.Results

/-! Checks in a fixed order. A step that can fail decides what it accepts, and its error is of the first check that fails.
Steps one after another, and the members of a list, are checked from the left. -/

namespace ChefDsl.Proofs.Checks
open Results

variable {ε α β : Type}

/-- The error is of the first check that reports any. A check is the errors that it reports. -/
inductive FirstFault : List (ε → Prop) → ε → Prop where
  | here {check : ε → Prop} {others error} (fault : check error) : FirstFault (check :: others) error
  | later {check : ε → Prop} {others error} (passed : ∀ other, ¬ check other) (fault : FirstFault others error) :
    FirstFault (check :: others) error

/-- A step gives a result for all that it accepts and otherwise the error of a fault. -/
structure Decides (step : Except ε α) (accepted : Prop) (fault : ε → Prop) : Prop where
  accepts : (∃ value, step = .ok value) ↔ accepted
  refuses : ∀ error, step = .error error ↔ fault error

private theorem firstFault_cons {check : ε → Prop} {others : List (ε → Prop)} {error : ε} :
    FirstFault (check :: others) error ↔ check error ∨ (∀ other, ¬ check other) ∧ FirstFault others error := by
  constructor
  · intro fault
    cases fault with
    | here fault => exact Or.inl fault
    | later passed fault => exact Or.inr ⟨passed, fault⟩
  · rintro (fault | ⟨passed, fault⟩)
    · exact .here fault
    · exact .later passed fault

theorem Decides.ok (value : α) : Decides (.ok value : Except ε α) True (FirstFault []) := by
  refine ⟨by simp, ?_⟩
  intro error
  constructor
  · intro failed
    cases failed
  · intro fault
    cases fault

theorem Decides.congr {step : Except ε α} {accepted also : Prop} {fault other : ε → Prop}
    (decides : Decides step accepted fault) (same : accepted ↔ also) (faults : ∀ error, fault error ↔ other error) :
    Decides step also other :=
  ⟨decides.accepts.trans same, fun error => (decides.refuses error).trans (faults error)⟩

/-- A test with one error: the step passes. -/
theorem Decides.passed {step : Except ε α} {accepted : Prop} {value : α} (found : step = .ok value)
    (holds : accepted) (error : ε) : Decides step accepted fun other => ¬ accepted ∧ other = error := by
  subst found
  exact ⟨by simp [holds], by simp [holds]⟩

/-- A test with one error: the step fails. -/
theorem Decides.failed {step : Except ε α} {accepted : Prop} {error : ε} (found : step = .error error)
    (refused : ¬ accepted) : Decides step accepted fun other => ¬ accepted ∧ other = error := by
  subst found
  exact ⟨by simp [refused], by simp [refused, eq_comm]⟩

theorem Decides.map {step : Except ε α} {accepted : Prop} {fault : ε → Prop} (decides : Decides step accepted fault)
    (change : α → β) : Decides (step.map change) accepted fault := by
  obtain ⟨accepts, refuses⟩ := decides
  cases step with
  | ok value => exact ⟨by simpa [Except.map] using accepts, by simpa [Except.map] using refuses⟩
  | error error => exact ⟨by simpa [Except.map] using accepts, by simpa [Except.map] using refuses⟩

/-- What follows a step is checked only where the step has passed. -/
theorem Decides.bind {step : Except ε α} {next : α → Except ε β} {accepted more : Prop} {fault : ε → Prop}
    {others : List (ε → Prop)} (decides : Decides step accepted fault)
    (rest : ∀ value, step = .ok value → Decides (next value) more (FirstFault others)) :
    Decides (step >>= next) (accepted ∧ more) (FirstFault (fault :: others)) := by
  obtain ⟨accepts, refuses⟩ := decides
  constructor
  · constructor
    · rintro ⟨result, found⟩
      obtain ⟨value, first, second⟩ := bind_eq_ok.mp found
      exact ⟨accepts.mp ⟨value, first⟩, (rest value first).accepts.mp ⟨result, second⟩⟩
    · rintro ⟨first, second⟩
      obtain ⟨value, found⟩ := accepts.mpr first
      obtain ⟨result, later⟩ := (rest value found).accepts.mpr second
      exact ⟨result, bind_eq_ok.mpr ⟨value, found, later⟩⟩
  · intro error
    rw [firstFault_cons]
    cases step with
    | error other =>
      have failed : fault other := (refuses other).mp rfl
      constructor
      · intro same
        cases same
        exact Or.inl failed
      · rintro (reported | ⟨passed, _⟩)
        · have same := (refuses error).mpr reported
          cases same
          rfl
        · exact absurd failed (passed other)
    | ok value =>
      have passed : ∀ other, ¬ fault other := by
        intro other reported
        have failed := (refuses other).mpr reported
        cases failed
      rw [ok_bind, (rest value rfl).refuses error]
      constructor
      · intro later
        exact Or.inr ⟨passed, later⟩
      · rintro (reported | ⟨_, later⟩)
        · exact absurd reported (passed error)
        · exact later

/-- The members of a list are checked from the left. -/
theorem Decides.mapM {step : α → Except ε β} {accepted : α → Prop} {fault : α → ε → Prop}
    (each : ∀ item, Decides (step item) (accepted item) (fault item)) (items : List α) :
    Decides (items.mapM step) (∀ item ∈ items, accepted item) (FirstFault (items.map fault)) := by
  induction items with
  | nil => exact (Decides.ok []).congr (by simp) fun _ => Iff.rfl
  | cons item rest ih =>
    simp only [List.mapM_cons, bind_return, List.map_cons, List.forall_mem_cons]
    exact (each item).bind fun value _ => ih.map (value :: ·)

end ChefDsl.Proofs.Checks
