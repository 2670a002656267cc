import ChefDsl.Proofs.UniqueKeys
import Mathlib.Data.List.Induction

/-! What changes leave behind when they are made one after another. A field holds what it was set to last. A map has its
keys in the order in which they were put first, each with the value that was put under it last, and nothing else of the
order in which its entries were put can be told from it. -/

namespace ChefDsl.Proofs.Settings
open UniqueKeys

section Fields
variable {σ γ φ α : Type} {apply : σ → γ → σ}

/-- A field holds the value of the last change that sets it. -/
theorem field_foldl (field : σ → φ) (set? : γ → Option φ)
    (step : ∀ built change, field (apply built change) = (set? change).getD (field built)) (built : σ)
    (changes : List γ) : field (changes.foldl apply built) = (changes.filterMap set?).getLastD (field built) := by
  induction changes generalizing built with
  | nil => rfl
  | cons change rest ih =>
    rw [List.foldl_cons, ih, step, List.filterMap_cons]
    cases set? change with
    | none => rfl
    | some value => rw [Option.getD_some, List.getLastD_cons]

/-- A map takes the entries of the changes that put one. -/
theorem entries_foldl (entries : σ → Entries α) (put? : γ → Option (String × α))
    (step : ∀ built change, entries (apply built change) = (entries built).putAll (put? change).toList) (built : σ)
    (changes : List γ) :
    entries (changes.foldl apply built) = (entries built).putAll (changes.filterMap put?) := by
  induction changes generalizing built with
  | nil => rfl
  | cons change rest ih =>
    rw [List.foldl_cons, ih, step, List.filterMap_cons]
    cases put? change with
    | none => rfl
    | some entry => rfl

end Fields

section Entries
variable {α : Type}

/-- The keys stand in the order in which the pairs give them first, each with the value that they give it last. -/
structure FirstAndLast (entries pairs : Entries α) : Prop where
  keys : entries.map Prod.fst = (pairs.map Prod.fst).eraseDups
  values : ∀ key, entries.lookup key = pairs.reverse.lookup key

/-- The pairs give the same keys, in the same order where each of them comes first, and the same value last to each. -/
structure SameEntries (first second : Entries α) : Prop where
  order : (first.map Prod.fst).eraseDups = (second.map Prod.fst).eraseDups
  last : ∀ key, first.reverse.lookup key = second.reverse.lookup key

private theorem eraseDups_concat (keys : List String) (key : String) :
    (keys ++ [key]).eraseDups = if key ∈ keys then keys.eraseDups else keys.eraseDups ++ [key] := by
  rw [List.eraseDups_append]
  split
  next present => simp [List.removeAll, present]
  next absent => simp [List.removeAll, absent, List.eraseDups_cons]

theorem firstAndLast_ofPairs (pairs : Entries α) : FirstAndLast (Entries.ofPairs pairs) pairs := by
  induction pairs using List.reverseRecOn with
  | nil => exact ⟨rfl, fun _ => rfl⟩
  | append_singleton pairs pair ih =>
    obtain ⟨keys, values⟩ := ih
    constructor
    · rw [ofPairs_concat, Entries.keys_put, keys, List.map_append, List.map_singleton, eraseDups_concat]
      simp only [List.mem_eraseDups]
    · intro key
      rw [ofPairs_concat, Entries.lookup_put, values, List.reverse_concat, List.lookup_cons]
      by_cases here : key = pair.1
      · simp [here]
      · have apart : (key == pair.1) = false := beq_eq_false_iff_ne.mpr here
        simp [here, apart]

/-- A map is known by the order of its keys and the values under them. -/
theorem eq_of_lookup {first second : Entries α} (unique : first.Unique)
    (keys : first.map Prod.fst = second.map Prod.fst) (values : ∀ key, first.lookup key = second.lookup key) :
    first = second := by
  have also : second.Unique := by
    rw [Entries.Unique, ← keys]
    exact unique
  apply List.ext_getElem (by simpa using congrArg List.length keys)
  intro i inside within
  have key : first[i].1 = second[i].1 := by
    simpa [inside, within] using congrArg (·[i]?) keys
  have one : first.lookup first[i].1 = some first[i].2 := (lookup_eq_some unique).mpr (List.getElem_mem inside)
  have other : second.lookup second[i].1 = some second[i].2 := (lookup_eq_some also).mpr (List.getElem_mem within)
  rw [values, key, other] at one
  exact Prod.ext key (Option.some.inj one).symm

/-- The order in which pairs are put shows in a map only where keys come first. -/
theorem ofPairs_eq_iff {first second : Entries α} :
    Entries.ofPairs first = Entries.ofPairs second ↔ SameEntries first second := by
  have made := firstAndLast_ofPairs first
  have also := firstAndLast_ofPairs second
  constructor
  · intro same
    rw [same] at made
    refine ⟨made.keys.symm.trans also.keys, ?_⟩
    intro key
    rw [← made.values, also.values]
  · rintro ⟨order, last⟩
    apply eq_of_lookup (Entries.unique_ofPairs first)
    · rw [made.keys, also.keys, order]
    · intro key
      rw [made.values, also.values, last]

end Entries

end ChefDsl.Proofs.Settings
