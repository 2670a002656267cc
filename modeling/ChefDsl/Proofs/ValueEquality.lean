import ChefDsl.Proofs.UniqueKeys
import Mathlib.Data.List.Perm.Basic
import Mathlib.Data.List.Perm.Subperm

/-! Equality of maps and values without the order of entries. The test of a map looks up each key in the other map, and
where the keys are all different this finds the entry that corresponds. -/

namespace ChefDsl.Proofs.ValueEquality
open UniqueKeys

section Lists
variable {α β γ : Type} {same : α → β → Prop}

theorem exists_forall₂ {items : List α} (each : ∀ item ∈ items, ∃ other, same item other) :
    ∃ others, List.Forall₂ same items others := by
  induction items with
  | nil => exact ⟨[], .nil⟩
  | cons item rest ih =>
    obtain ⟨other, first⟩ := each item (by simp)
    obtain ⟨others, later⟩ := ih fun item member => each item (by simp [member])
    exact ⟨other :: others, .cons first later⟩

theorem forall₂_imp_of_mem {also : α → β → Prop} {items : List α} {others : List β}
    (each : List.Forall₂ same items others)
    (related : ∀ item ∈ items, ∀ other, same item other → also item other) : List.Forall₂ also items others := by
  apply List.Forall₂.imp _ ((List.forall₂_and_left items others).mpr ⟨related, each⟩)
  exact fun item other both => both.1 other both.2

theorem eq_map_of_forall₂ {change : α → β} {items : List α} {others : List β}
    (each : List.Forall₂ (fun item other => other = change item) items others) : others = items.map change := by
  induction each with
  | nil => rfl
  | cons same _ ih => rw [List.map_cons, same, ih]

theorem forall₂_comp {next : β → γ → Prop} {items : List α} {others : List β} {last : List γ}
    (each : List.Forall₂ same items others) (also : List.Forall₂ next others last) :
    List.Forall₂ (Relation.Comp same next) items last := by
  induction each generalizing last with
  | nil =>
    cases also
    exact .nil
  | @cons _ other _ _ head _ ih =>
    cases also with
    | cons here later => exact .cons ⟨other, head, here⟩ (ih later)

/-- What holds of the members on either side may be told apart from what relates them. -/
theorem forall₂_members {left : α → Prop} {right : β → Prop} {items : List α} {others : List β} :
    List.Forall₂ (fun item other => same item other ∧ left item ∧ right other) items others ↔
      List.Forall₂ same items others ∧ (∀ item ∈ items, left item) ∧ ∀ other ∈ others, right other := by
  induction items generalizing others with
  | nil => cases others <;> simp
  | cons item rest ih =>
    cases others with
    | nil => simp
    | cons other others =>
      simp only [List.forall₂_cons, ih, List.forall_mem_cons]
      tauto

end Lists

section Maps
variable {α β : Type} {same : α → β → Prop} {first : Entries α} {second : Entries β}

/-- The maps have the same keys, in any order, with related values under them. -/
def Corresponds (same : α → β → Prop) (first : Entries α) (second : Entries β) : Prop :=
  ∃ middle : Entries β,
    List.Forall₂ (fun entry other => entry.1 = other.1 ∧ same entry.2 other.2) first middle ∧ middle.Perm second

/-- Entries that stand side by side have the same keys side by side, and related values. -/
theorem forall₂_entries {middle : Entries β} :
    List.Forall₂ (fun entry other => entry.1 = other.1 ∧ same entry.2 other.2) first middle ↔
      first.map Prod.fst = middle.map Prod.fst ∧ List.Forall₂ same (first.map Prod.snd) (middle.map Prod.snd) := by
  induction first generalizing middle with
  | nil => cases middle <;> simp
  | cons entry rest ih =>
    cases middle with
    | nil => simp
    | cons other others =>
      simp only [List.forall₂_cons, ih, List.map_cons, List.cons.injEq]
      exact and_and_and_comm

theorem lookup_of_forall₂ {middle : Entries β}
    (each : List.Forall₂ (fun entry other => entry.1 = other.1 ∧ same entry.2 other.2) first middle) (key : String) :
    Option.Rel same (first.lookup key) (middle.lookup key) := by
  induction each with
  | nil => exact .none
  | @cons entry other _ _ head _ ih =>
    obtain ⟨name, value⟩ := entry
    obtain ⟨twin, changed⟩ := other
    obtain ⟨rfl, related⟩ := head
    by_cases here : key = name
    · subst here
      simpa using Option.Rel.some related
    · have apart : (key == name) = false := beq_eq_false_iff_ne.mpr here
      simpa only [List.lookup_cons, apart] using ih

theorem Corresponds.lookup (unique : first.Unique) (corresponds : Corresponds same first second) (key : String) :
    Option.Rel same (first.lookup key) (second.lookup key) := by
  obtain ⟨middle, each, order⟩ := corresponds
  have also : middle.Unique := by rwa [Entries.Unique, ← (forall₂_entries.mp each).1]
  rw [← lookup_perm also order]
  exact lookup_of_forall₂ each key

private theorem Corresponds.length_eq (corresponds : Corresponds same first second) : first.length = second.length := by
  obtain ⟨middle, each, order⟩ := corresponds
  exact each.length_eq.trans order.length_eq

theorem Corresponds.map {γ δ : Type} {also : γ → δ → Prop} {change : α → γ} {alter : β → δ}
    (corresponds : Corresponds same first second)
    (related : ∀ entry ∈ first, ∀ twin, same entry.2 twin → also (change entry.2) (alter twin)) :
    Corresponds also (first.map fun entry => (entry.1, change entry.2))
      (second.map fun entry => (entry.1, alter entry.2)) := by
  obtain ⟨middle, each, order⟩ := corresponds
  refine ⟨middle.map fun entry => (entry.1, alter entry.2), ?_, order.map _⟩
  rw [List.forall₂_map_left_iff, List.forall₂_map_right_iff]
  apply forall₂_imp_of_mem each
  exact fun entry member other both => ⟨both.1, related entry member other.2 both.2⟩

theorem Corresponds.imp {also : α → β → Prop} (corresponds : Corresponds same first second)
    (related : ∀ entry ∈ first, ∀ twin, same entry.2 twin → also entry.2 twin) : Corresponds also first second := by
  have mapped : Corresponds also (first.map fun entry => (entry.1, id entry.2))
      (second.map fun entry => (entry.1, id entry.2)) := corresponds.map related
  simpa using mapped

theorem Corresponds.flip (corresponds : Corresponds same first second) :
    Corresponds (fun value other => same other value) second first := by
  obtain ⟨middle, each, order⟩ := corresponds
  apply List.perm_comp_forall₂ order.symm
  exact each.flip.imp fun entry other related => ⟨related.1.symm, related.2⟩

theorem Corresponds.comp {γ : Type} {next : β → γ → Prop} {third : Entries γ}
    (corresponds : Corresponds same first second) (also : Corresponds next second third) :
    Corresponds (Relation.Comp same next) first third := by
  obtain ⟨middle, each, order⟩ := corresponds
  obtain ⟨last, others, reordered⟩ := also
  obtain ⟨moved, behind, back⟩ := List.perm_comp_forall₂ order others
  refine ⟨moved, (forall₂_comp each behind).imp ?_, back.trans reordered⟩
  intro entry twin ⟨other, first, second⟩
  exact ⟨first.1.trans second.1, other.2, first.2, second.2⟩

/-- What holds of the values on either side may be told apart from what relates them. -/
theorem corresponds_and {left : α → Prop} {right : β → Prop} :
    Corresponds (fun value other => same value other ∧ left value ∧ right other) first second ↔
      Corresponds same first second ∧ (∀ entry ∈ first, left entry.2) ∧ ∀ entry ∈ second, right entry.2 := by
  simp only [Corresponds, ← and_assoc (b := same _ _)]
  constructor
  · intro ⟨middle, each, order⟩
    obtain ⟨related, before, behind⟩ := forall₂_members.mp each
    exact ⟨⟨middle, related, order⟩, before, fun entry member => behind entry (order.mem_iff.mpr member)⟩
  · intro ⟨⟨middle, related, order⟩, before, behind⟩
    exact ⟨middle, forall₂_members.mpr ⟨related, before, fun entry member => behind entry (order.mem_iff.mp member)⟩, order⟩

theorem corresponds_eq {first second : Entries α} : Corresponds (· = ·) first second ↔ first.Perm second := by
  have pairs : (fun entry other : String × α => entry.1 = other.1 ∧ entry.2 = other.2) = (· = ·) := by
    funext entry other
    rw [Prod.ext_iff]
  simp [Corresponds, pairs, List.forall₂_eq_eq_eq]

end Maps

section Tests
variable {α : Type} {test : α → α → Bool} {first second : Entries α}

theorem agree_of_corresponds (unique : first.Unique)
    (corresponds : Corresponds (fun value other => test value other = true) first second) :
    first.agree test second = true := by
  rw [Entries.agree, Bool.and_eq_true, List.all_eq_true, beq_iff_eq]
  refine ⟨corresponds.length_eq, ?_⟩
  intro (key, value) member
  have found := corresponds.lookup unique key
  rw [(lookup_eq_some unique).mpr member] at found
  cases there : second.lookup key with
  | none =>
    rw [there] at found
    cases found
  | some other =>
    rw [there] at found
    cases found with
    | some related => exact related

theorem agree_of_perm (reflexive : ∀ value, test value value = true) (unique : first.Unique)
    (order : first.Perm second) : first.agree test second = true :=
  agree_of_corresponds unique ⟨first, List.forall₂_same.mpr fun entry _ => ⟨rfl, reflexive entry.2⟩, order⟩

/-- Equally many different keys, each of them among those of the other map, are all the keys of that map. -/
theorem corresponds_of_agree (unique : first.Unique) (agrees : first.agree test second = true) :
    Corresponds (fun value other => test value other = true) first second := by
  rw [Entries.agree, Bool.and_eq_true, List.all_eq_true, beq_iff_eq] at agrees
  obtain ⟨size, found⟩ := agrees
  have partner : ∀ entry ∈ first, ∃ other : String × α,
      (entry.1 = other.1 ∧ test entry.2 other.2 = true) ∧ other ∈ second := by
    intro entry member
    obtain ⟨value, there, related⟩ := (Option.any_eq_true _ _).mp (found entry member)
    obtain ⟨before, after, split, _⟩ := List.lookup_eq_some_iff.mp there
    exact ⟨(entry.1, value), ⟨rfl, related⟩, by simp [split]⟩
  obtain ⟨middle, each⟩ := exists_forall₂ partner
  have placed : List.Forall₂ (fun entry other => (entry.1 = other.1 ∧ test entry.2 other.2 = true) ∧
      True ∧ other ∈ second) first middle := each.imp fun _ _ both => ⟨both.1, trivial, both.2⟩
  obtain ⟨related, _, inside⟩ := forall₂_members.mp placed
  have keys := ((@forall₂_entries _ _ (fun value other => test value other = true) first middle).mp related).1
  have distinct : Entries.Unique middle := by rwa [Entries.Unique, ← keys]
  refine ⟨middle, related, ((nodup_of_unique distinct).subperm inside).perm_of_length_le ?_⟩
  exact Nat.le_of_eq (size.symm.trans related.length_eq)

theorem agree_iff (unique : first.Unique) :
    first.agree test second = true ↔ Corresponds (fun value other => test value other = true) first second :=
  ⟨corresponds_of_agree unique, agree_of_corresponds unique⟩

end Tests

section Values

private theorem equalUnder_eq (first second : List (String × Value)) :
    Value.equalUnder first second = first.all fun entry => (second.lookup entry.1).any entry.2.equal := by
  induction first with
  | nil => rfl
  | cons entry rest ih =>
    rw [Value.equalUnder, ih, List.all_cons]
    cases second.lookup entry.1 <;> rfl

theorem equal_hash (first second : Attributes) :
    (Value.hash first).equal (.hash second) = first.agree Value.equal second := by
  rw [Value.equal, equalUnder_eq, Entries.agree]

theorem equal_array {first second : List Value} :
    (Value.array first).equal (.array second) = true ↔
      List.Forall₂ (fun item other => item.equal other = true) first second := by
  rw [Value.equal]
  induction first generalizing second with
  | nil => cases second <;> simp [Value.equalItems]
  | cons item rest ih =>
    cases second with
    | nil => simp [Value.equalItems]
    | cons other others => rw [Value.equalItems, Bool.and_eq_true, List.forall₂_cons, ih]

theorem equal_finite {x : Binary64} (finite : x.isFinite = true) : x.equal x = true := by
  have below : x.magnitude < Binary64.infinite := of_decide_eq_true finite
  have number : x.isNaN = false := by
    simp only [Binary64.isNaN, decide_eq_false_iff_not]
    omega
  simp [Binary64.equal, number]

end Values

end ChefDsl.Proofs.ValueEquality
