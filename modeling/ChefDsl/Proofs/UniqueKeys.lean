import ChefDsl.Entity
import ChefDsl.Proofs.Nesting

/-! Maps whose keys are all different, at every depth of a value, a document and an entity. Building such a map entry
by entry gives its entries in their order. -/

namespace ChefDsl.Proofs.UniqueKeys
open Nesting

section Entries
variable {α : Type}

instance (entries : Entries α) : Decidable entries.Unique :=
  inferInstanceAs (Decidable (entries.map Prod.fst).Nodup)

theorem mem_put {entries : Entries α} {key : String} {value : α} {entry : String × α}
    (member : entry ∈ entries.put key value) : entry ∈ entries ∨ entry = (key, value) := by
  induction entries with
  | nil => exact Or.inr (List.mem_singleton.mp member)
  | cons first rest ih =>
    rw [Entries.put] at member
    split at member
    · rcases List.mem_cons.mp member with here | later
      · exact Or.inr here
      · exact Or.inl (by simp [later])
    · rcases List.mem_cons.mp member with here | later
      · exact Or.inl (by simp [here])
      · rcases ih later with inside | new
        · exact Or.inl (by simp [inside])
        · exact Or.inr new

theorem mem_putAll {entries pairs : Entries α} {entry : String × α}
    (member : entry ∈ entries.putAll pairs) : entry ∈ entries ∨ entry ∈ pairs := by
  induction pairs generalizing entries with
  | nil => exact Or.inl member
  | cons pair rest ih =>
    have step : entry ∈ (entries.put pair.1 pair.2).putAll rest := member
    rcases ih step with put | later
    · rcases mem_put put with inside | rfl
      · exact Or.inl inside
      · exact Or.inr (by simp)
    · exact Or.inr (by simp [later])

theorem putAll_first (key : String) (value : α) (rest pairs : Entries α) :
    ∃ last others, Entries.putAll ((key, value) :: rest) pairs = (key, last) :: others := by
  induction pairs generalizing value rest with
  | nil => exact ⟨value, rest, rfl⟩
  | cons pair pairs ih =>
    rw [Entries.putAll, List.foldl_cons, Entries.put]
    split
    · next same =>
      rw [← same]
      exact ih pair.2 rest
    · exact ih value _

private theorem put_fresh {entries : Entries α} {key : String} (fresh : key ∉ entries.map Prod.fst) (value : α) :
    entries.put key value = entries ++ [(key, value)] := by
  induction entries with
  | nil => rfl
  | cons entry rest ih =>
    simp only [List.map_cons, List.mem_cons, not_or] at fresh
    rw [Entries.put, if_neg (Ne.symm fresh.1), ih fresh.2, List.cons_append]

theorem putAll_fresh {entries pairs : Entries α} (unique : Entries.Unique (entries ++ pairs)) :
    entries.putAll pairs = entries ++ pairs := by
  induction pairs generalizing entries with
  | nil => simp [Entries.putAll]
  | cons pair rest ih =>
    have fresh : pair.1 ∉ entries.map Prod.fst := by
      intro present
      rw [Entries.Unique, List.map_append, List.nodup_append] at unique
      exact unique.2.2 _ present _ (by simp) rfl
    have split : entries ++ pair :: rest = (entries ++ [pair]) ++ rest := by simp
    rw [Entries.putAll, List.foldl_cons, put_fresh fresh]
    rw [split] at unique ⊢
    exact ih unique

theorem ofPairs_concat (pairs : Entries α) (pair : String × α) :
    Entries.ofPairs (pairs ++ [pair]) = (Entries.ofPairs pairs).put pair.1 pair.2 := by
  simp [Entries.ofPairs, Entries.putAll]

theorem ofPairs_unique {pairs : Entries α} (unique : Entries.Unique pairs) : Entries.ofPairs pairs = pairs :=
  putAll_fresh unique

theorem lookup_eq_some {entries : Entries α} (unique : entries.Unique) {key : String} {value : α} :
    entries.lookup key = some value ↔ (key, value) ∈ entries := by
  induction entries with
  | nil => simp
  | cons entry rest ih =>
    obtain ⟨name, old⟩ := entry
    obtain ⟨fresh, others⟩ := List.nodup_cons.mp unique
    by_cases here : key = name
    · subst here
      have absent : (key, value) ∉ rest := fun later => fresh (List.mem_map.mpr ⟨_, later, rfl⟩)
      simp [absent, eq_comm]
    · have apart : (key == name) = false := beq_eq_false_iff_ne.mpr here
      simp [List.lookup_cons, apart, here, ih others]

theorem lookup_missing {entries : Entries α} {key : String} (missing : key ∉ entries.map Prod.fst) :
    entries.lookup key = none := by
  rw [List.lookup_eq_none_iff]
  intro entry member
  simp only [bne_iff_ne]
  rintro rfl
  exact missing (List.mem_map.mpr ⟨entry, member, rfl⟩)

theorem lookup_perm {first second : Entries α} (unique : first.Unique) (order : first.Perm second) (key : String) :
    first.lookup key = second.lookup key := by
  have also : second.Unique := (order.map Prod.fst).nodup_iff.mp unique
  apply Option.ext
  intro value
  rw [lookup_eq_some unique, lookup_eq_some also, order.mem_iff]

theorem nodup_of_unique {entries : Entries α} (unique : entries.Unique) : entries.Nodup := by
  apply (List.pairwise_map.mp unique).imp
  intro entry other keys same
  exact keys (congrArg Prod.fst same)

theorem perm_of_lookup {first second : Entries α} (unique : first.Unique) (also : second.Unique)
    (same : ∀ key, first.lookup key = second.lookup key) : first.Perm second := by
  rw [List.perm_ext_iff_of_nodup (nodup_of_unique unique) (nodup_of_unique also)]
  intro (key, value)
  rw [← lookup_eq_some unique, ← lookup_eq_some also, same]

theorem keys_putAll (entries : Entries α) {pairs : Entries α} (unique : pairs.Unique) :
    (entries.putAll pairs).map Prod.fst =
      entries.map Prod.fst ++ (pairs.map Prod.fst).filter (· ∉ entries.map Prod.fst) := by
  induction pairs generalizing entries with
  | nil => simp [Entries.putAll]
  | cons pair rest ih =>
    obtain ⟨key, value⟩ := pair
    obtain ⟨fresh, others⟩ := List.nodup_cons.mp unique
    have step : entries.putAll ((key, value) :: rest) = (entries.put key value).putAll rest := rfl
    rw [step, ih _ others, Entries.keys_put, List.map_cons]
    by_cases present : key ∈ entries.map Prod.fst
    · rw [if_pos present, List.filter_cons_of_neg (by simpa using present)]
    · have same : ∀ other ∈ rest.map Prod.fst,
          decide (other ∉ entries.map Prod.fst ++ [key]) = decide (other ∉ entries.map Prod.fst) := by
        intro other member
        have apart : other ≠ key := by
          rintro rfl
          exact fresh member
        simp [apart]
      rw [if_neg present, List.filter_cons_of_pos (by simpa using present), List.filter_congr same, List.append_assoc]
      rfl

theorem lookup_putAll (entries : Entries α) {pairs : Entries α} (unique : pairs.Unique) (key : String) :
    (entries.putAll pairs).lookup key = (pairs.lookup key).or (entries.lookup key) := by
  induction pairs generalizing entries with
  | nil => rfl
  | cons pair rest ih =>
    obtain ⟨name, value⟩ := pair
    obtain ⟨fresh, others⟩ := List.nodup_cons.mp unique
    have step : entries.putAll ((name, value) :: rest) = (entries.put name value).putAll rest := rfl
    rw [step, ih _ others, Entries.lookup_put]
    by_cases here : key = name
    · subst here
      simp [lookup_missing fresh]
    · have apart : (key == name) = false := beq_eq_false_iff_ne.mpr here
      simp [here, List.lookup_cons, apart]

section Single
variable {entries pairs : Entries α} {key : String}

private theorem mem_keys_putAll (given : key ∈ entries.map Prod.fst ∨ key ∈ pairs.map Prod.fst) :
    key ∈ (entries.putAll pairs).map Prod.fst := by
  induction pairs generalizing entries with
  | nil => simpa [Entries.putAll] using given
  | cons pair rest ih =>
    rw [List.map_cons, List.mem_cons] at given
    have step : entries.putAll (pair :: rest) = (entries.put pair.1 pair.2).putAll rest := rfl
    rw [step]
    apply ih
    rw [Entries.keys_put]
    split
    · next present =>
      rcases given with inside | rfl | later
      · exact Or.inl inside
      · exact Or.inl present
      · exact Or.inr later
    · rcases given with inside | rfl | later
      · exact Or.inl (List.mem_append_left _ inside)
      · exact Or.inl (by simp)
      · exact Or.inr later

private theorem put_alone (unique : entries.Unique) (alone : ∀ entry ∈ entries, entry.1 = key) (value : α) :
    entries.put key value = [(key, value)] := by
  cases entries with
  | nil => rfl
  | cons entry rest =>
    obtain ⟨fresh, _⟩ := List.nodup_cons.mp unique
    have here : entry.1 = key := alone entry (by simp)
    have nothing : rest = [] := by
      apply List.eq_nil_iff_forall_not_mem.mpr
      intro other member
      have same : other.1 = entry.1 := (alone other (by simp [member])).trans here.symm
      exact fresh (List.mem_map.mpr ⟨other, member, same⟩)
    simp [Entries.put, here, nothing]

private theorem ofPairs_alone {value : α} (alone : ∀ pair ∈ pairs, pair.1 = key)
    (last : pairs.getLast? = some (key, value)) :
    Entries.ofPairs pairs = [(key, value)] := by
  obtain ⟨initial, rfl⟩ := List.getLast?_eq_some_iff.mp last
  rw [ofPairs_concat]
  apply put_alone (Entries.unique_ofPairs initial)
  intro entry member
  rcases mem_putAll member with nothing | inside
  · cases nothing
  · exact alone entry (by simp [inside])

/-- Only entries under one key make a map of one entry, which holds the last value. -/
theorem ofPairs_eq_single {value : α} : Entries.ofPairs pairs = [(key, value)] ↔
    pairs.getLast? = some (key, value) ∧ ∀ pair ∈ pairs, pair.1 = key := by
  constructor
  · intro single
    have alone : ∀ pair ∈ pairs, pair.1 = key := by
      intro pair member
      have kept : pair.1 ∈ (Entries.ofPairs pairs).map Prod.fst :=
        mem_keys_putAll (Or.inr (List.mem_map_of_mem member))
      simpa [single] using kept
    have nonempty : pairs ≠ [] := by
      intro empty
      rw [empty] at single
      cases single
    have name : (pairs.getLast nonempty).1 = key := alone _ (List.getLast_mem nonempty)
    have last : pairs.getLast? = some (key, (pairs.getLast nonempty).2) := by
      rw [List.getLast?_eq_some_getLast nonempty, ← name]
    have also := ofPairs_alone alone last
    rw [single] at also
    cases also
    exact ⟨last, alone⟩
  · intro ⟨last, alone⟩
    exact ofPairs_alone alone last

end Single

end Entries

def hasUniqueKeys : Value → Bool
  | .hash entries => decide (Entries.Unique entries)
  | _ => true

/-- The keys of every hash in a value are different. -/
def Keyed (value : Value) : Prop := everywhere hasUniqueKeys value = true

instance (value : Value) : Decidable (Keyed value) := inferInstanceAs (Decidable (_ = true))

theorem keyed_array {items : List Value} : Keyed (.array items) ↔ ∀ item ∈ items, Keyed item := by
  simp [Keyed, everywhere_array, hasUniqueKeys]

theorem keyed_hash {entries : List (String × Value)} :
    Keyed (.hash entries) ↔ Entries.Unique entries ∧ ∀ entry ∈ entries, Keyed entry.2 := by
  simp [Keyed, everywhere_hash, hasUniqueKeys]

structure KeyedRole (role : Role) : Prop where
  defaultAttributes : Keyed (.hash role.defaultAttributes)
  overrideAttributes : Keyed (.hash role.overrideAttributes)
  envRunLists : role.envRunLists.Unique

structure KeyedEnvironment (environment : Environment) : Prop where
  cookbookVersions : environment.cookbookVersions.Unique
  defaultAttributes : Keyed (.hash environment.defaultAttributes)
  overrideAttributes : Keyed (.hash environment.overrideAttributes)

/-- The keys of every map in an entity are different. -/
def KeyedEntity : Entity → Prop
  | .role role => KeyedRole role
  | .environment environment => KeyedEnvironment environment

end ChefDsl.Proofs.UniqueKeys
