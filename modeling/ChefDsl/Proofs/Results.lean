import Mathlib.Data.List.Forall2

/-! Steps that may fail, taken apart. A sequence gives a result exactly if all of its steps do, and a list of steps
gives one result for each of its items. -/

namespace ChefDsl.Proofs.Results
variable {ε α β γ : Type}

@[simp] theorem ok_bind (value : α) (next : α → Except ε β) : (Except.ok value >>= next) = next value := rfl

@[simp] theorem error_bind (error : ε) (next : α → Except ε β) : (Except.error error >>= next) = .error error := rfl

@[simp] theorem pure_eq_ok (value : α) : (pure value : Except ε α) = .ok value := rfl

theorem bind_return (step : Except ε α) (change : α → β) : (do return change (← step)) = step.map change := by
  cases step <;> rfl

theorem map_eq_ok {step : Except ε α} {change : α → β} {result : β} :
    step.map change = .ok result ↔ ∃ value, step = .ok value ∧ change value = result := by
  cases step <;> simp [Except.map]

theorem map_eq_error {step : Except ε α} {change : α → β} {error : ε} :
    step.map change = .error error ↔ step = .error error := by
  cases step <;> simp [Except.map]

theorem bind_eq_ok {step : Except ε α} {next : α → Except ε β} {result : β} :
    (step >>= next) = .ok result ↔ ∃ value, step = .ok value ∧ next value = .ok result := by
  cases step with
  | error error => simp
  | ok value => simp

theorem eq_ok_of_toOption {result : Except ε α} {value : α} (given : result.toOption = some value) :
    result = .ok value := by
  cases result with
  | error error => cases given
  | ok other => exact congrArg Except.ok (Option.some.inj given)

theorem mapM_ok {step : α → Except ε β} {value : α → β} {items : List α}
    (each : ∀ item ∈ items, step item = .ok (value item)) : items.mapM step = .ok (items.map value) := by
  induction items with
  | nil => rfl
  | cons item rest ih =>
    have tail := ih fun other member => each other (by simp [member])
    simp [List.mapM_cons, each item (by simp), tail]

theorem mapM_eq_ok {step : α → Except ε β} {items : List α} {results : List β} :
    items.mapM step = .ok results ↔ List.Forall₂ (fun item result => step item = .ok result) items results := by
  induction items generalizing results with
  | nil => simp [eq_comm]
  | cons item rest ih =>
    simp only [List.mapM_cons, bind_eq_ok, pure_eq_ok, Except.ok.injEq, List.forall₂_cons_left_iff, ih]
    constructor
    · intro ⟨first, here, others, later, same⟩
      exact ⟨first, others, here, later, same.symm⟩
    · intro ⟨first, others, here, later, same⟩
      exact ⟨first, here, others, later, same.symm⟩

theorem exists_of_mem_mapM {step : α → Except ε β} {items : List α} {results : List β}
    (found : items.mapM step = .ok results) : ∀ result ∈ results, ∃ item ∈ items, step item = .ok result := by
  induction items generalizing results with
  | nil =>
    simp only [List.mapM_nil, pure_eq_ok, Except.ok.injEq] at found
    simp [← found]
  | cons item rest ih =>
    simp only [List.mapM_cons, bind_eq_ok, pure_eq_ok, Except.ok.injEq] at found
    obtain ⟨first, here, others, later, rfl⟩ := found
    intro result member
    rcases List.mem_cons.mp member with rfl | inside
    · exact ⟨item, by simp, here⟩
    · obtain ⟨source, among, gives⟩ := ih later result inside
      exact ⟨source, by simp [among], gives⟩

/-- What every step keeps, the list of the results keeps in its order. -/
theorem map_eq_of_mapM {step : α → Except ε β} {before : α → γ} {after : β → γ}
    (kept : ∀ item result, step item = .ok result → after result = before item) {items : List α} {results : List β}
    (found : items.mapM step = .ok results) : results.map after = items.map before := by
  induction items generalizing results with
  | nil =>
    simp only [List.mapM_nil, pure_eq_ok, Except.ok.injEq] at found
    simp [← found]
  | cons item rest ih =>
    simp only [List.mapM_cons, bind_eq_ok, pure_eq_ok, Except.ok.injEq] at found
    obtain ⟨first, here, others, later, rfl⟩ := found
    simp [kept item first here, ih later]

/-- Both steps fail, whatever their errors are, or both give results that are related. -/
inductive Alike (same : α → β → Prop) : Except ε α → Except ε β → Prop where
  | ok {first second} (related : same first second) : Alike same (.ok first) (.ok second)
  | error (first second : ε) : Alike same (.error first) (.error second)

theorem Alike.bind {δ : Type} {same : α → β → Prop} {also : γ → δ → Prop} {first : Except ε α} {second : Except ε β}
    {next : α → Except ε γ} {other : β → Except ε δ} (alike : Alike same first second)
    (rest : ∀ value twin, first = .ok value → same value twin → Alike also (next value) (other twin)) :
    Alike also (first >>= next) (second >>= other) := by
  cases alike with
  | ok related => exact rest _ _ rfl related
  | error error fault => exact .error error fault

theorem Alike.after {δ : Type} {also : γ → δ → Prop} {next : α → Except ε γ} {other : α → Except ε δ}
    (step : Except ε α) (rest : ∀ value, Alike also (next value) (other value)) :
    Alike also (step >>= next) (step >>= other) := by
  cases step with
  | ok value => exact rest value
  | error error => exact .error error error

theorem Alike.map {δ : Type} {same : α → β → Prop} {also : γ → δ → Prop} {first : Except ε α} {second : Except ε β}
    {change : α → γ} {alter : β → δ} (alike : Alike same first second)
    (related : ∀ value twin, first = .ok value → same value twin → also (change value) (alter twin)) :
    Alike also (first.map change) (second.map alter) := by
  cases alike with
  | ok same => exact .ok (related _ _ rfl same)
  | error error fault => exact .error error fault

theorem Alike.trans {same : α → α → Prop} (transitive : ∀ {a b c}, same a b → same b c → same a c)
    {first second third : Except ε α} (alike : Alike same first second) (also : Alike same second third) :
    Alike same first third := by
  cases alike with
  | ok related =>
    cases also with
    | ok next => exact .ok (transitive related next)
  | error error fault =>
    cases also with
    | error _ last => exact .error error last

/-- The order of the items decides only which of several errors is met first. -/
theorem alike_mapM_perm (step : α → Except ε β) {items others : List α} (order : items.Perm others) :
    Alike List.Perm (items.mapM step) (others.mapM step) := by
  induction order with
  | nil => exact .ok (.refl [])
  | cons item _ ih =>
    rw [List.mapM_cons, List.mapM_cons]
    refine Alike.after (step item) fun value => ?_
    exact ih.bind fun values twins _ order => .ok (order.cons value)
  | swap item other rest =>
    simp only [List.mapM_cons]
    -- If both items fail, the two runs report different errors.
    cases step item with
    | error fault =>
      cases step other with
      | error error => exact .error error fault
      | ok value => exact .error fault fault
    | ok value =>
      cases step other with
      | error error => exact .error error error
      | ok twin =>
        cases rest.mapM step with
        | error error => exact .error error error
        | ok values => exact .ok (.swap value twin values)
  | trans _ _ ih later => exact Alike.trans (fun first second => first.trans second) ih later

end ChefDsl.Proofs.Results
