import ChefDsl.Proofs.UniqueKeys

/-! The values that documents hold. A whole number stands as a signed one wherever it fits and no float is infinite or
undefined. These are exactly the values that a document can be written for, and conversion gives them back. -/

namespace ChefDsl.Proofs.CanonicalValues
open Nesting UniqueKeys

def isCanonical : Value → Bool
  | .unsigned n => 0x7FFFFFFFFFFFFFFF < n.toNat
  | .float x => x.isFinite
  | _ => true

/-- At every depth, unsigned numbers are beyond the signed range and floats are finite. -/
def Canonical (value : Value) : Prop := everywhere isCanonical value = true

instance (value : Value) : Decidable (Canonical value) := inferInstanceAs (Decidable (_ = true))

theorem canonical_array {items : List Value} : Canonical (.array items) ↔ ∀ item ∈ items, Canonical item := by
  simp [Canonical, everywhere_array, isCanonical]

theorem canonical_hash {entries : List (String × Value)} :
    Canonical (.hash entries) ↔ ∀ entry ∈ entries, Canonical entry.2 := by
  simp [Canonical, everywhere_hash, isCanonical]

theorem isNaN_of_canonical {x : Binary64} (finite : Canonical (.float x)) : x.isNaN = false := by
  have below : x.magnitude < Binary64.infinite := of_decide_eq_true finite
  simp only [Binary64.isNaN, decide_eq_false_iff_not]
  omega

/-- A natural number is signed with the same value, or it is beyond all signed numbers. -/
theorem ofNatural_cases (n : UInt64) :
    (∃ m : Int64, m.toInt = n.toNat ∧ Value.ofNatural n = .integer m) ∨
      0x7FFFFFFFFFFFFFFF < n.toNat ∧ Value.ofNatural n = .unsigned n := by
  rw [Value.ofNatural]
  split
  · next small => exact Or.inl ⟨_, Int64.toInt_ofNat_of_lt small, rfl⟩
  · next large => exact Or.inr ⟨by omega, rfl⟩

private theorem canonical_ofNumber (number : Json.Number) : Canonical (Value.ofNumber number) := by
  cases number with
  | natural n =>
    rw [Value.ofNumber]
    rcases ofNatural_cases n with ⟨m, _, signed⟩ | ⟨beyond, unsigned⟩
    · rw [signed]
      rfl
    · rw [unsigned]
      exact decide_eq_true beyond
  | negative n below => rfl
  | float x finite => exact finite

theorem canonical_ofJson (document : Json) : Canonical (Value.ofJson document) := by
  induction document with
  | null => rfl
  | bool value => rfl
  | number value => exact canonical_ofNumber value
  | string text => rfl
  | array items ih =>
    rw [Value.ofJson, ofItems_eq, canonical_array]
    exact List.forall_mem_map.mpr ih
  | object entries ih =>
    rw [Value.ofJson, ofEntries_eq, canonical_hash]
    exact List.forall_mem_map.mpr ih

/-- The keys of every object in a document are different. Conversion keeps all keys where they are. -/
def KeyedJson (document : Json) : Prop := Keyed (Value.ofJson document)

theorem keyedJson_number (number : Json.Number) : KeyedJson (.number number) := by
  rw [KeyedJson, Value.ofJson]
  cases number with
  | natural n =>
    rw [Value.ofNumber]
    rcases ofNatural_cases n with ⟨m, _, signed⟩ | ⟨_, unsigned⟩
    · rw [signed]
      rfl
    · rw [unsigned]
      rfl
  | _ => rfl

theorem keyedJson_array {items : List Json} : KeyedJson (.array items) ↔ ∀ item ∈ items, KeyedJson item := by
  rw [KeyedJson, Value.ofJson, ofItems_eq, keyed_array, List.forall_mem_map]
  rfl

theorem keyedJson_object {entries : List (String × Json)} :
    KeyedJson (.object entries) ↔ Entries.Unique entries ∧ ∀ entry ∈ entries, KeyedJson entry.2 := by
  rw [KeyedJson, Value.ofJson, ofEntries_eq, keyed_hash, List.forall_mem_map, Entries.Unique, List.map_map]
  rfl

section Documents

def numberOf (n : Int64) : Json.Number :=
  if below : n.toInt < 0 then .negative n below else .natural (UInt64.ofNat n.toInt.toNat)

mutual

/-- A document for a value. It has no numbers that are not finite, and shows null in their place. -/
def jsonOf : Value → Json
  | .nil => .null
  | .bool value => .bool value
  | .integer n => .number (numberOf n)
  | .unsigned n => .number (.natural n)
  | .float x => if finite : x.isFinite = true then .number (.float x finite) else .null
  | .string text => .string text
  | .array items => .array (jsonItems items)
  | .hash entries => .object (jsonEntries entries)

def jsonItems : List Value → List Json
  | [] => []
  | item :: rest => jsonOf item :: jsonItems rest

def jsonEntries : List (String × Value) → List (String × Json)
  | [] => []
  | (key, value) :: rest => (key, jsonOf value) :: jsonEntries rest

end

theorem jsonItems_eq (items : List Value) : jsonItems items = items.map jsonOf := by
  induction items with
  | nil => rfl
  | cons item rest ih => rw [jsonItems, ih, List.map_cons]

theorem jsonEntries_eq (entries : List (String × Value)) :
    jsonEntries entries = entries.map fun entry => (entry.1, jsonOf entry.2) := by
  induction entries with
  | nil => rfl
  | cons entry rest ih => rw [jsonEntries, ih, List.map_cons]

theorem ofNumber_numberOf (n : Int64) : Value.ofNumber (numberOf n) = .integer n := by
  unfold numberOf
  split
  · rfl
  next natural =>
    have bound := n.toInt_lt
    have small : n.toInt.toNat < 0x8000000000000000 := by omega
    have kept : (UInt64.ofNat n.toInt.toNat).toNat = n.toInt.toNat :=
      UInt64.toNat_ofNat_of_lt' (Nat.lt_trans small (by decide))
    have same : Int64.ofNat n.toInt.toNat = n := by
      rw [← Int64.toInt_inj, Int64.toInt_ofNat_of_lt small]
      omega
    rw [Value.ofNumber, Value.ofNatural, kept, if_pos small, same]

/-- A canonical value is what its document converts to. -/
theorem ofJson_jsonOf {value : Value} (canonical : Canonical value) : Value.ofJson (jsonOf value) = value := by
  induction value with
  | nil => rfl
  | bool value => rfl
  | integer n => rw [jsonOf, Value.ofJson, ofNumber_numberOf]
  | unsigned n =>
    have beyond : 0x7FFFFFFFFFFFFFFF < n.toNat := of_decide_eq_true canonical
    rw [jsonOf, Value.ofJson, Value.ofNumber, Value.ofNatural, if_neg (by omega)]
  | float x =>
    have finite : x.isFinite = true := canonical
    rw [jsonOf, dif_pos finite, Value.ofJson, Value.ofNumber]
  | string text => rfl
  | array items ih =>
    have each := canonical_array.mp canonical
    rw [jsonOf, jsonItems_eq, Value.ofJson, ofItems_eq, List.map_map]
    refine congrArg _ (Eq.trans (List.map_congr_left ?_) (List.map_id items))
    intro item inside
    exact ih item inside (each item inside)
  | hash entries ih =>
    have each := canonical_hash.mp canonical
    rw [jsonOf, jsonEntries_eq, Value.ofJson, ofEntries_eq, List.map_map]
    refine congrArg _ (Eq.trans (List.map_congr_left ?_) (List.map_id entries))
    intro entry inside
    exact congrArg (entry.1, ·) (ih entry inside (each entry inside))

end Documents

end ChefDsl.Proofs.CanonicalValues
