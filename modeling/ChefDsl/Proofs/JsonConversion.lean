import ChefDsl.Binary64.Rounding
import ChefDsl.Proofs.CanonicalValues
import ChefDsl.Proofs.LiteralWords
import ChefDsl.Proofs.ValueEquality

/-! Values of documents. Conversion keeps the tree, the order and the keys, gives each whole number the kind that its
size calls for and leaves the bits of floats alone, so nothing of a document is lost. On the page every whole number
stands as its decimal text, and no word stands for infinity or an undefined number. -/

namespace ChefDsl.Proofs.JsonConversion
open Nesting UniqueKeys CanonicalValues ValueEquality ValueLayout LiteralWords

section Statement

/-- The value of a number that is written without a fraction and an exponent and fits into 64 bits. -/
def integer? : Json.Number → Option Int
  | .natural n => some n.toNat
  | .negative n _ => some n.toInt
  | .float _ _ => none

/-- The value is the document, with its whole numbers signed where they fit. -/
inductive Converts : Json → Value → Prop where
  | null : Converts .null .nil
  | bool (value : Bool) : Converts (.bool value) (.bool value)
  | signed {number : Json.Number} {n : Int64} (same : integer? number = some n.toInt) :
    Converts (.number number) (.integer n)
  | unsigned {number : Json.Number} {n : UInt64} (same : integer? number = some (n.toNat : Int))
    (beyond : 0x7FFFFFFFFFFFFFFF < n.toNat) : Converts (.number number) (.unsigned n)
  | float {x : Binary64} (finite : x.isFinite = true) : Converts (.number (.float x finite)) (.float x)
  | string (text : String) : Converts (.string text) (.string text)
  | array {items values} (each : List.Forall₂ Converts items values) : Converts (.array items) (.array values)
  | object {entries : List (String × Json)} {values : List (String × Value)}
    (keys : entries.map Prod.fst = values.map Prod.fst)
    (each : List.Forall₂ Converts (entries.map Prod.snd) (values.map Prod.snd)) :
    Converts (.object entries) (.hash values)

section Assembly

def signed? : Json.Number → Option Int64
  | .natural n => if n.toNat ≤ 0x7FFFFFFFFFFFFFFF then some (Int64.ofNat n.toNat) else none
  | .negative n _ => some n
  | .float _ _ => none

def unsigned? : Json.Number → Option UInt64
  | .natural n => some n
  | _ => none

/-- Every number has a double, which is the nearest one to a whole number. -/
def double? : Json.Number → Option Binary64
  | .natural n => some (.ofMagnitude false (Binary64.roundNat n.toNat))
  | .negative n _ => some (.ofMagnitude true (Binary64.roundNat n.toInt.natAbs))
  | .float x _ => some x

/-- A number as the first that it can be of a signed number, an unsigned one and a double. -/
def assembledNumber (fallback : Binary64) (number : Json.Number) : Value :=
  match signed? number with
  | some n => .integer n
  | none =>
    match unsigned? number with
    | some n => .unsigned n
    | none => .float ((double? number).getD fallback)

mutual

/-- Conversion in single steps: a number is tried as each kind in turn, and the map of an object is filled entry by
entry. -/
def assembled (fallback : Binary64) : Json → Value
  | .null => .nil
  | .bool value => .bool value
  | .number number => assembledNumber fallback number
  | .string text => .string text
  | .array items => .array (assembledItems fallback items)
  | .object entries => .hash (Entries.ofPairs (assembledEntries fallback entries))

def assembledItems (fallback : Binary64) : List Json → List Value
  | [] => []
  | item :: rest => assembled fallback item :: assembledItems fallback rest

def assembledEntries (fallback : Binary64) : List (String × Json) → List (String × Value)
  | [] => []
  | (key, value) :: rest => (key, assembled fallback value) :: assembledEntries fallback rest

end

end Assembly

section Texts

/-- A number as it is to be written: whole ones in decimal. -/
def numeral : Json.Number → Text
  | .natural n => (toString n.toNat).toList
  | .negative n _ => (toString n.toInt).toList
  | .float x _ => Value.floatText x

mutual

/-- The words that a document is to be written with, outside of strings and keys. -/
def documentWords : Json → List Text
  | .null => ["nil".toList]
  | .bool value => [(toString value).toList]
  | .number number => [numeral number]
  | .string _ => []
  | .array items => memberWords items
  | .object entries => fieldWords entries

def memberWords : List Json → List Text
  | [] => []
  | item :: rest => documentWords item ++ memberWords rest

def fieldWords : List (String × Json) → List Text
  | [] => []
  | (_, value) :: rest => "=>".toList :: (documentWords value ++ fieldWords rest)

end

/-- The words for floats that are no finite numbers. -/
def infiniteWords : List Text := ["Float::NAN".toList, "Float::INFINITY".toList, "-Float::INFINITY".toList]

end Texts

/-- The value of a document is the one that the document describes and describes no other document. It is what the
single steps assemble, whatever double stands ready for a number without one, and shows in the words of the document. -/
structure Faithful (document : Json) : Prop where
  described : ∀ value, Converts document value ↔ value = .ofJson document
  injective : ∀ other, Value.ofJson other = .ofJson document → other = document
  assembles : KeyedJson document → ∀ fallback, assembled fallback document = .ofJson document
  written : ∀ level, words ((Value.ofJson document).format level) = documentWords document
  defined : ∀ level, ∀ word ∈ words ((Value.ofJson document).format level), word ∉ infiniteWords

/-- The number is the one for an integer, converts like the integer itself and is written as its decimal text. -/
structure StandsFor (number : Json.Number) (n : Int) : Prop where
  same : integer? number = some n
  alone : ∀ other, integer? other = some n → other = number
  signed : ∀ m : Int64, m.toInt = n → Value.ofNumber number = .integer m
  natural : ∀ m : UInt64, m.toNat = n → Value.ofNumber number = .ofNatural m
  written : ∀ level, (Value.ofNumber number).format level = (toString n).toList

end Statement

section Numbers
variable {number : Json.Number}

private theorem integer?_numberOf (n : Int64) : integer? (numberOf n) = some n.toInt := by
  unfold numberOf
  split
  · rfl
  · next natural =>
    have bound := n.toInt_lt
    have small : n.toInt.toNat < 0x8000000000000000 := by omega
    have kept : (UInt64.ofNat n.toInt.toNat).toNat = n.toInt.toNat :=
      UInt64.toNat_ofNat_of_lt' (Nat.lt_trans small (by decide))
    rw [integer?, kept, Int.toNat_of_nonneg (by omega)]

/-- Each whole number has one representation. -/
theorem integer?_inj {other : Json.Number} {n : Int} (first : integer? number = some n)
    (second : integer? other = some n) : number = other := by
  have same : integer? number = integer? other := first.trans second.symm
  cases number with
  | natural m =>
    cases other with
    | natural k =>
      have equal : (m.toNat : Int) = k.toNat := Option.some.inj same
      rw [UInt64.toNat_inj.mp (Int.ofNat_inj.mp equal)]
    | negative k below =>
      have equal : (m.toNat : Int) = k.toInt := Option.some.inj same
      omega
    | float x finite => cases second
  | negative m below =>
    cases other with
    | natural k =>
      have equal : m.toInt = k.toNat := Option.some.inj same
      omega
    | negative k also =>
      have equal : m = k := Int64.toInt_inj.mp (Option.some.inj same)
      subst equal
      rfl
    | float x finite => cases second
  | float x finite => cases first

private theorem ofNumber_signed {n : Int64} (same : integer? number = some n.toInt) :
    Value.ofNumber number = .integer n := by
  rw [integer?_inj same (integer?_numberOf n), ofNumber_numberOf]

private theorem ofNumber_natural {n : UInt64} (same : integer? number = some (n.toNat : Int)) :
    Value.ofNumber number = .ofNatural n := by
  have found : integer? (.natural n) = some (n.toNat : Int) := rfl
  rw [integer?_inj same found, Value.ofNumber]

private theorem converts_ofNumber (number : Json.Number) : Converts (.number number) (Value.ofNumber number) := by
  cases number with
  | natural n =>
    rw [Value.ofNumber]
    rcases ofNatural_cases n with ⟨m, same, signed⟩ | ⟨beyond, unsigned⟩
    · rw [signed]
      exact .signed (congrArg some same.symm)
    · rw [unsigned]
      exact .unsigned rfl beyond
  | negative n below => exact .signed rfl
  | float x finite => exact .float finite

private theorem ofNumber_of_converts {value : Value} (converts : Converts (.number number) value) :
    value = Value.ofNumber number := by
  cases converts with
  | signed same => exact (ofNumber_signed same).symm
  | @unsigned _ n same beyond =>
    rw [ofNumber_natural same]
    rcases ofNatural_cases n with ⟨m, small, _⟩ | ⟨_, unsigned⟩
    · have bound := m.toInt_lt
      omega
    · exact unsigned.symm
  | float finite => rfl

private theorem assembledNumber_eq (fallback : Binary64) (number : Json.Number) :
    assembledNumber fallback number = Value.ofNumber number := by
  cases number with
  | natural n =>
    by_cases small : n.toNat ≤ 0x7FFFFFFFFFFFFFFF
    · have below : n.toNat < 0x8000000000000000 := by omega
      simp only [assembledNumber, signed?, small, Value.ofNumber, Value.ofNatural, below, ↓reduceIte]
    · have beyond : ¬ n.toNat < 0x8000000000000000 := by omega
      simp only [assembledNumber, signed?, unsigned?, small, Value.ofNumber, Value.ofNatural, beyond, ↓reduceIte]
  | negative n below => rfl
  | float x finite => rfl

end Numbers

section Texts
variable {number : Json.Number}

private theorem integerText_eq (n : Int) : Decimal.integerText n = (toString n).toList := by
  cases n with
  | ofNat m =>
    have digits : (toString (Int.ofNat m)).toList = Nat.toDigits 10 m := Nat.toList_repr
    rw [digits]
    simp [Decimal.integerText]
  | negSucc m =>
    have digits : (toString (Int.negSucc m)).toList = '-' :: Nat.toDigits 10 (m + 1) := by
      simp [toString, Int.repr, Nat.toList_repr]
    rw [digits]
    simp [Decimal.integerText]

private theorem numeral_integer {n : Int} (whole : integer? number = some n) :
    numeral number = Decimal.integerText n := by
  rw [integerText_eq]
  cases number with
  | natural m =>
    cases whole
    rfl
  | negative m below =>
    cases whole
    rfl
  | float x finite => cases whole

private theorem isNumberChar_numeral {c : Char} (member : c ∈ numeral number) : isNumberChar c = true := by
  cases number with
  | natural n =>
    rw [numeral_integer rfl] at member
    exact isNumberChar_integerText member
  | negative n below =>
    rw [numeral_integer rfl] at member
    exact isNumberChar_integerText member
  | float x finite => exact isNumberChar_floatText finite member

private theorem written_number {value : Value} (converts : Converts (.number number) value) :
    wordsOf value = [numeral number] ∧ ∀ depth, layoutAt depth value = numeral number := by
  cases converts with
  | signed same =>
    rw [numeral_integer same]
    exact ⟨rfl, fun _ => rfl⟩
  | unsigned same beyond =>
    rw [numeral_integer same]
    exact ⟨rfl, fun _ => rfl⟩
  | float finite => exact ⟨rfl, fun _ => rfl⟩

private theorem memberWords_eq (items : List Json) : memberWords items = items.flatMap documentWords := by
  induction items with
  | nil => rfl
  | cons item rest ih => rw [memberWords, ih, List.flatMap_cons]

private theorem fieldWords_eq (entries : List (String × Json)) :
    fieldWords entries = entries.flatMap fun entry => "=>".toList :: documentWords entry.2 := by
  induction entries with
  | nil => rfl
  | cons entry rest ih => rw [fieldWords, ih, List.flatMap_cons, List.cons_append]

private theorem wordsOf_ofJson (document : Json) : wordsOf (Value.ofJson document) = documentWords document := by
  induction document with
  | null => rfl
  | bool value => cases value <;> rfl
  | number number => exact (written_number (converts_ofNumber number)).1
  | string text => rfl
  | array items ih =>
    rw [Value.ofJson, ofItems_eq, wordsOf, itemWords_eq, List.flatMap_map, documentWords, memberWords_eq]
    exact List.flatMap_congr ih
  | object entries ih =>
    rw [Value.ofJson, ofEntries_eq, wordsOf, entryWords_eq, List.flatMap_map, documentWords, fieldWords_eq]
    apply List.flatMap_congr
    intro entry member
    exact congrArg _ (ih entry member)

/-- All words for floats that are no finite numbers have a letter that is in no word of a document. -/
theorem letter_notMem (document : Json) : ∀ word ∈ documentWords document, 'F' ∉ word := by
  induction document with
  | null => decide
  | bool value => cases value <;> decide
  | number number =>
    intro word member letter
    rw [List.mem_singleton.mp member] at letter
    exact absurd (isNumberChar_numeral letter) (by decide)
  | string text => simp [documentWords]
  | array items ih =>
    intro word member
    rw [documentWords, memberWords_eq] at member
    obtain ⟨item, inside, among⟩ := List.mem_flatMap.mp member
    exact ih item inside word among
  | object entries ih =>
    intro word member
    rw [documentWords, fieldWords_eq] at member
    obtain ⟨entry, inside, among⟩ := List.mem_flatMap.mp member
    rcases List.mem_cons.mp among with rfl | later
    · decide
    · exact ih entry inside word later

end Texts

section Documents
variable {document : Json}

private theorem converts_ofJson (document : Json) : Converts document (Value.ofJson document) := by
  induction document with
  | null => exact .null
  | bool value => exact .bool value
  | number number => exact converts_ofNumber number
  | string text => exact .string text
  | array items ih =>
    rw [Value.ofJson, ofItems_eq]
    apply Converts.array
    exact List.forall₂_map_right_iff.mpr (List.forall₂_same.mpr ih)
  | object entries ih =>
    rw [Value.ofJson, ofEntries_eq]
    have each : List.Forall₂ (fun (entry : String × Json) (other : String × Value) =>
        entry.1 = other.1 ∧ Converts entry.2 other.2) entries
        (entries.map fun entry => (entry.1, Value.ofJson entry.2)) :=
      List.forall₂_map_right_iff.mpr (List.forall₂_same.mpr fun entry member => ⟨rfl, ih entry member⟩)
    obtain ⟨keys, values⟩ := forall₂_entries.mp each
    exact .object keys values

private theorem ofJson_of_converts {value : Value} (converts : Converts document value) : value = .ofJson document := by
  induction document generalizing value with
  | null =>
    cases converts
    rfl
  | bool value =>
    cases converts
    rfl
  | number number => exact ofNumber_of_converts converts
  | string text =>
    cases converts
    rfl
  | array items ih =>
    cases converts with
    | array each =>
      rw [Value.ofJson, ofItems_eq]
      apply congrArg
      apply eq_map_of_forall₂
      apply forall₂_imp_of_mem each
      intro item member other converts
      exact ih item member converts
  | object entries ih =>
    cases converts with
    | object keys each =>
      rw [Value.ofJson, ofEntries_eq]
      apply congrArg
      apply eq_map_of_forall₂
      apply forall₂_imp_of_mem (forall₂_entries.mpr ⟨keys, each⟩)
      intro entry member other related
      exact Prod.ext related.1.symm (ih entry member related.2)

private theorem jsonOf_number {number : Json.Number} {value : Value} (converts : Converts (.number number) value) :
    jsonOf value = .number number := by
  cases converts with
  | signed same => rw [jsonOf, integer?_inj (integer?_numberOf _) same]
  | @unsigned _ n same beyond =>
    have found : integer? (.natural n) = some (n.toNat : Int) := rfl
    rw [jsonOf, integer?_inj found same]
  | float finite => rw [jsonOf, dif_pos finite]

/-- A document is what its value is written for, so no two documents have one value. -/
theorem jsonOf_ofJson (document : Json) : jsonOf (Value.ofJson document) = document := by
  induction document with
  | null => rfl
  | bool value => rfl
  | number number => exact jsonOf_number (converts_ofNumber number)
  | string text => rfl
  | array items ih =>
    rw [Value.ofJson, ofItems_eq, jsonOf, jsonItems_eq, List.map_map]
    apply congrArg
    exact (List.map_congr_left ih).trans (List.map_id items)
  | object entries ih =>
    have same : ∀ entry ∈ entries, (entry.1, jsonOf (Value.ofJson entry.2)) = entry := by
      intro entry member
      exact congrArg (entry.1, ·) (ih entry member)
    rw [Value.ofJson, ofEntries_eq, jsonOf, jsonEntries_eq, List.map_map]
    apply congrArg
    exact (List.map_congr_left same).trans (List.map_id entries)

private theorem assembledItems_eq (fallback : Binary64) (items : List Json) :
    assembledItems fallback items = items.map (assembled fallback) := by
  induction items with
  | nil => rfl
  | cons item rest ih => rw [assembledItems, ih, List.map_cons]

private theorem assembledEntries_eq (fallback : Binary64) (entries : List (String × Json)) :
    assembledEntries fallback entries = entries.map fun entry => (entry.1, assembled fallback entry.2) := by
  induction entries with
  | nil => rfl
  | cons entry rest ih => rw [assembledEntries, ih, List.map_cons]

/-- Filling the map of an object leaves its entries where they are, as no two have the same key. -/
theorem assembled_eq (fallback : Binary64) (keyed : KeyedJson document) :
    assembled fallback document = .ofJson document := by
  induction document with
  | null => rfl
  | bool value => rfl
  | number number => exact assembledNumber_eq fallback number
  | string text => rfl
  | array items ih =>
    have members := keyedJson_array.mp keyed
    rw [assembled, assembledItems_eq, Value.ofJson, ofItems_eq]
    apply congrArg
    apply List.map_congr_left
    intro item member
    exact ih item member (members item member)
  | object entries ih =>
    obtain ⟨unique, members⟩ := keyedJson_object.mp keyed
    have same : assembledEntries fallback entries = Value.ofEntries entries := by
      rw [assembledEntries_eq, ofEntries_eq]
      apply List.map_congr_left
      intro entry member
      exact congrArg (entry.1, ·) (ih entry member (members entry member))
    have converted : Entries.Unique (Value.ofEntries entries) := by
      rwa [ofEntries_eq, Entries.Unique, List.map_map]
    rw [assembled, same, ofPairs_unique converted, Value.ofJson]

private theorem faithful (document : Json) : Faithful document := by
  have written (level : Level) : words ((Value.ofJson document).format level) = documentWords document := by
    rw [words_format, wordsOf_ofJson]
  refine ⟨?_, ?_, fun keyed fallback => assembled_eq fallback keyed, written, ?_⟩
  · intro value
    constructor
    · exact ofJson_of_converts
    · rintro rfl
      exact converts_ofJson document
  · intro other same
    rw [← jsonOf_ofJson other, same, jsonOf_ofJson]
  · intro level word member infinite
    rw [written level] at member
    have letter : ∀ word ∈ infiniteWords, 'F' ∈ word := by decide
    exact letter_notMem document word member (letter word infinite)

private theorem standsFor {number : Json.Number} {n : Int} (same : integer? number = some n) : StandsFor number n := by
  refine ⟨same, ?_, ?_, ?_, ?_⟩
  · intro other also
    exact integer?_inj also same
  · rintro m rfl
    exact ofNumber_signed same
  · rintro m rfl
    exact ofNumber_natural same
  · intro level
    rw [format_eq, (written_number (converts_ofNumber number)).2, numeral_integer same, integerText_eq]

private theorem exists_standsFor {n : Int} (least : -0x8000000000000000 ≤ n) (bound : n < 0x10000000000000000) :
    ∃ number, StandsFor number n := by
  by_cases negative : n < 0
  · have value : (Int64.ofInt n).toInt = n := Int64.toInt_ofInt_of_le (by omega) (by omega)
    exact ⟨.negative (Int64.ofInt n) (by omega), standsFor (congrArg some value)⟩
  · have small : n.toNat < 0x10000000000000000 := by omega
    have value : ((UInt64.ofNat n.toNat).toNat : Int) = n := by
      rw [UInt64.toNat_ofNat_of_lt' small, Int.toNat_of_nonneg (by omega)]
    exact ⟨.natural (UInt64.ofNat n.toNat), standsFor (congrArg some value)⟩

/-- Conversion is faithful to every document, and every integer of 64 bits has a number that stands for it. -/
theorem conversion_faithful (document : Json) :
    Faithful document ∧
      ∀ n : Int, -0x8000000000000000 ≤ n → n < 0x10000000000000000 → ∃ number, StandsFor number n :=
  ⟨faithful document, fun _ least bound => exists_standsFor least bound⟩

/-- The numbers on both sides of where signed numbers end, under keys that look like literals. -/
def borders : Json :=
  .object [("Float::NAN", .array [.number (.natural 0x7FFFFFFFFFFFFFFF), .number (.natural 0x8000000000000000)]),
    ("'\n\"", .array [.string "Float::INFINITY", .object [("", .number (.negative (-0x8000000000000000) (by decide)))]])]

theorem conversion_faithful_borders :
    KeyedJson borders ∧ assembled ⟨0x7FF8000000000000⟩ borders = .ofJson borders ∧
      words ((Value.ofJson borders).format ⟨1⟩) = ["=>", "9223372036854775807", "9223372036854775808", "=>", "=>",
        "-9223372036854775808"].map String.toList ∧
      ∃ number, StandsFor number 0xFFFFFFFFFFFFFFFF := by
  have keyed : Keyed (.ofJson borders) := by decide
  obtain ⟨faithful, stands⟩ := conversion_faithful borders
  have texts : documentWords borders = ["=>", "9223372036854775807", "9223372036854775808", "=>", "=>",
      "-9223372036854775808"].map String.toList := by decide
  exact ⟨keyed, faithful.assembles keyed _, (faithful.written ⟨1⟩).trans texts,
    stands 0xFFFFFFFFFFFFFFFF (by decide) (by decide)⟩

end Documents

end ChefDsl.Proofs.JsonConversion
