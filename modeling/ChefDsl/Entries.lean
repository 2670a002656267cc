/-! Ordered maps with string keys, held as lists of pairs. Putting an entry keeps the place of a key that is
already there and takes the new value, so the order is that of first insertion. -/

namespace ChefDsl

abbrev Entries (α : Type) := List (String × α)

namespace Entries
variable {α : Type}

def Unique (entries : Entries α) : Prop := (entries.map Prod.fst).Nodup

def put (entries : Entries α) (key : String) (value : α) : Entries α :=
  match entries with
  | [] => [(key, value)]
  | (other, old) :: rest =>
    if other = key then (key, value) :: rest else (other, old) :: put rest key value

def putAll (entries : Entries α) (pairs : List (String × α)) : Entries α :=
  pairs.foldl (fun current pair => current.put pair.1 pair.2) entries

def ofPairs (pairs : List (String × α)) : Entries α := putAll [] pairs

theorem lookup_put (entries : Entries α) (key other : String) (value : α) :
    (entries.put key value).lookup other = if other = key then some value else entries.lookup other := by
  by_cases same : other = key
  · subst same
    induction entries with
    | nil => simp [put]
    | cons entry rest ih =>
      obtain ⟨name, old⟩ := entry
      by_cases here : name = other
      · simp [put, here]
      · simpa [put, here, List.lookup_cons, beq_eq_false_iff_ne.mpr (Ne.symm here)] using ih
  · simp only [same, ↓reduceIte]
    have apart : (other == key) = false := beq_eq_false_iff_ne.mpr same
    induction entries with
    | nil => simp [put, List.lookup_cons, apart]
    | cons entry rest ih =>
      obtain ⟨name, old⟩ := entry
      by_cases here : name = key
      · simp [put, here, List.lookup_cons, apart]
      · simp [put, here, List.lookup_cons, ih]

/-- Putting an entry leaves the keys as they are, or adds its key behind them. -/
theorem keys_put (entries : Entries α) (key : String) (value : α) :
    (entries.put key value).map Prod.fst =
      if key ∈ entries.map Prod.fst then entries.map Prod.fst else entries.map Prod.fst ++ [key] := by
  induction entries with
  | nil => simp [put]
  | cons entry rest ih =>
    obtain ⟨name, old⟩ := entry
    by_cases here : name = key
    · simp [put, here]
    · have absent : key ≠ name := fun same => here same.symm
      simp only [put, here, ↓reduceIte, List.map_cons, ih, List.mem_cons, absent, false_or]
      split <;> rfl

theorem Unique.put {entries : Entries α} (unique : Unique entries) (key : String) (value : α) :
    Unique (entries.put key value) := by
  rw [Unique, keys_put]
  split
  · exact unique
  · rename_i absent
    refine List.nodup_append.mpr ⟨unique, by simp, ?_⟩
    intro name member other single same
    rw [List.mem_singleton] at single
    exact absent (single ▸ same ▸ member)

theorem Unique.putAll {entries : Entries α} (unique : Unique entries) (pairs : List (String × α)) :
    Unique (entries.putAll pairs) := by
  induction pairs generalizing entries with
  | nil => exact unique
  | cons pair rest ih => exact ih (unique.put pair.1 pair.2)

theorem unique_ofPairs (pairs : List (String × α)) : Unique (ofPairs pairs) :=
  (show Unique ([] : Entries α) from List.nodup_nil).putAll pairs

/-- Whether two maps have equally many entries and agree, by `same`, under every key of the first. -/
def agree (same : α → α → Bool) (first second : Entries α) : Bool :=
  first.length == second.length &&
    first.all fun entry => (second.lookup entry.1).any (same entry.2)

end Entries
end ChefDsl
