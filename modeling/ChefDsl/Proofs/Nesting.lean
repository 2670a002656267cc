import ChefDsl.Value.Layout

/-! Documents and values nest through the members of their containers. Induction assumes a property of all members
of a container at once, functions that walk over members in a recursion of their own are maps over them, and a test
of every part of a value is a test of the value and of its members. -/

namespace ChefDsl

@[elab_as_elim, induction_eliminator]
theorem Value.induction {motive : Value → Prop} (nil : motive .nil) (bool : ∀ value, motive (.bool value))
    (integer : ∀ n, motive (.integer n)) (unsigned : ∀ n, motive (.unsigned n)) (float : ∀ x, motive (.float x))
    (string : ∀ text, motive (.string text))
    (array : ∀ items, (∀ item ∈ items, motive item) → motive (.array items))
    (hash : ∀ entries, (∀ entry ∈ entries, motive entry.2) → motive (.hash entries)) (value : Value) :
    motive value :=
  match value with
  | .nil => nil
  | .bool value => bool value
  | .integer n => integer n
  | .unsigned n => unsigned n
  | .float x => float x
  | .string text => string text
  | .array items => array items fun item _ =>
    Value.induction nil bool integer unsigned float string array hash item
  | .hash entries => hash entries fun entry _ =>
    Value.induction nil bool integer unsigned float string array hash entry.2
termination_by sizeOf value
decreasing_by
  · have smaller := List.sizeOf_lt_of_mem ‹item ∈ items›
    simp only [Value.array.sizeOf_spec]
    omega
  · have smaller := List.sizeOf_lt_of_mem ‹entry ∈ entries›
    obtain ⟨key, value⟩ := entry
    simp only [Value.hash.sizeOf_spec, Prod.mk.sizeOf_spec] at smaller ⊢
    omega

@[elab_as_elim, induction_eliminator]
theorem Json.induction {motive : Json → Prop} (null : motive .null) (bool : ∀ value, motive (.bool value))
    (number : ∀ value, motive (.number value)) (string : ∀ text, motive (.string text))
    (array : ∀ items, (∀ item ∈ items, motive item) → motive (.array items))
    (object : ∀ entries, (∀ entry ∈ entries, motive entry.2) → motive (.object entries)) (document : Json) :
    motive document :=
  match document with
  | .null => null
  | .bool value => bool value
  | .number value => number value
  | .string text => string text
  | .array items => array items fun item _ => Json.induction null bool number string array object item
  | .object entries => object entries fun entry _ => Json.induction null bool number string array object entry.2
termination_by sizeOf document
decreasing_by
  · have smaller := List.sizeOf_lt_of_mem ‹item ∈ items›
    simp only [Json.array.sizeOf_spec]
    omega
  · have smaller := List.sizeOf_lt_of_mem ‹entry ∈ entries›
    obtain ⟨key, value⟩ := entry
    simp only [Json.object.sizeOf_spec, Prod.mk.sizeOf_spec] at smaller ⊢
    omega

namespace Proofs.Nesting

theorem literals_eq (items : List Value) : Value.literals items = items.map Value.literal := by
  induction items with
  | nil => rfl
  | cons item rest ih => rw [Value.literals, ih, List.map_cons]

theorem pairs_eq (entries : List (String × Value)) : Value.pairs entries =
    entries.map fun entry => Literal.quote entry.1.toList ++ Value.arrow ++ entry.2.literal := by
  induction entries with
  | nil => rfl
  | cons entry rest ih => rw [Value.pairs, ih, List.map_cons]

theorem ofItems_eq (items : List Json) : Value.ofItems items = items.map Value.ofJson := by
  induction items with
  | nil => rfl
  | cons item rest ih => rw [Value.ofItems, ih, List.map_cons]

theorem ofEntries_eq (entries : List (String × Json)) :
    Value.ofEntries entries = entries.map fun entry => (entry.1, Value.ofJson entry.2) := by
  induction entries with
  | nil => rfl
  | cons entry rest ih => rw [Value.ofEntries, ih, List.map_cons]

mutual

/-- Whether a value and all values inside it pass a test. -/
def everywhere (test : Value → Bool) : Value → Bool
  | .array items => test (.array items) && everyItem test items
  | .hash entries => test (.hash entries) && everyEntry test entries
  | value => test value

def everyItem (test : Value → Bool) : List Value → Bool
  | [] => true
  | item :: rest => everywhere test item && everyItem test rest

def everyEntry (test : Value → Bool) : List (String × Value) → Bool
  | [] => true
  | (_, value) :: rest => everywhere test value && everyEntry test rest

end

private theorem everyItem_eq (test : Value → Bool) (items : List Value) :
    everyItem test items = items.all (everywhere test) := by
  induction items with
  | nil => rfl
  | cons item rest ih => rw [everyItem, ih, List.all_cons]

private theorem everyEntry_eq (test : Value → Bool) (entries : List (String × Value)) :
    everyEntry test entries = entries.all fun entry => everywhere test entry.2 := by
  induction entries with
  | nil => rfl
  | cons entry rest ih => rw [everyEntry, ih, List.all_cons]

theorem everywhere_array {test : Value → Bool} {items : List Value} :
    everywhere test (.array items) = true ↔
      test (.array items) = true ∧ ∀ item ∈ items, everywhere test item = true := by
  rw [everywhere, everyItem_eq, Bool.and_eq_true, List.all_eq_true]

theorem everywhere_hash {test : Value → Bool} {entries : List (String × Value)} :
    everywhere test (.hash entries) = true ↔
      test (.hash entries) = true ∧ ∀ entry ∈ entries, everywhere test entry.2 = true := by
  rw [everywhere, everyEntry_eq, Bool.and_eq_true, List.all_eq_true]

end Proofs.Nesting
end ChefDsl
