import ChefDsl.Entity
import ChefDsl.Proofs.ValueEquality

/-! What equality tells apart. Equal values differ at most in the order of hash entries and in the signs of zeros, and
hold no NaN. So equality is symmetric and transitive, and reflexive on everything without a NaN. -/

namespace ChefDsl.Proofs.Rearrangement
open Nesting UniqueKeys ValueEquality

section Statement

/-- Two values that differ at most in the order of the entries of hashes and in the signs of zeros, at any depth. -/
inductive Rearranged : Value → Value → Prop where
  | nil : Rearranged .nil .nil
  | bool (value : Bool) : Rearranged (.bool value) (.bool value)
  | integer (n : Int64) : Rearranged (.integer n) (.integer n)
  | unsigned (n : UInt64) : Rearranged (.unsigned n) (.unsigned n)
  | float (x : Binary64) : Rearranged (.float x) (.float x)
  | zero {x y : Binary64} (first : x.magnitude = 0) (second : y.magnitude = 0) : Rearranged (.float x) (.float y)
  | string (text : String) : Rearranged (.string text) (.string text)
  | array {items others} (each : List.Forall₂ Rearranged items others) : Rearranged (.array items) (.array others)
  | hash {entries middle others : List (String × Value)} (keys : entries.map Prod.fst = middle.map Prod.fst)
    (values : List.Forall₂ Rearranged (entries.map Prod.snd) (middle.map Prod.snd)) (order : middle.Perm others) :
    Rearranged (.hash entries) (.hash others)

def isNumber : Value → Bool
  | .float x => !x.isNaN
  | _ => true

/-- No float in the value, at any depth, is a NaN. -/
def Defined (value : Value) : Prop := everywhere isNumber value = true

structure RearrangedRole (first second : Role) : Prop where
  name : first.name = second.name
  description : first.description = second.description
  defaultAttributes : Rearranged (.hash first.defaultAttributes) (.hash second.defaultAttributes)
  overrideAttributes : Rearranged (.hash first.overrideAttributes) (.hash second.overrideAttributes)
  runList : first.runList = second.runList
  envRunLists : first.envRunLists.Perm second.envRunLists

structure DefinedRole (role : Role) : Prop where
  defaultAttributes : Defined (.hash role.defaultAttributes)
  overrideAttributes : Defined (.hash role.overrideAttributes)

structure RearrangedEnvironment (first second : Environment) : Prop where
  name : first.name = second.name
  description : first.description = second.description
  cookbookVersions : first.cookbookVersions.Perm second.cookbookVersions
  defaultAttributes : Rearranged (.hash first.defaultAttributes) (.hash second.defaultAttributes)
  overrideAttributes : Rearranged (.hash first.overrideAttributes) (.hash second.overrideAttributes)

structure DefinedEnvironment (environment : Environment) : Prop where
  defaultAttributes : Defined (.hash environment.defaultAttributes)
  overrideAttributes : Defined (.hash environment.overrideAttributes)

/-- A test of things with unique keys is a partial equivalence. It accepts a thing as equal to itself if no NaN is in
it, and then exactly the rearrangements of the thing as equal to it. -/
structure Equates {α : Type} (equal : α → α → Bool) (keyed defined : α → Prop) (rearranged : α → α → Prop) :
    Prop where
  symm : ∀ first second, keyed first → keyed second → equal first second = true → equal second first = true
  trans : ∀ first second third, keyed first → keyed second → keyed third → equal first second = true →
    equal second third = true → equal first third = true
  self_iff : ∀ value, keyed value → (equal value value = true ↔ defined value)
  equal_iff : ∀ first second, keyed first → keyed second → defined first → defined second →
    (equal first second = true ↔ rearranged first second)

end Statement

section Relation

private theorem rearranged_array {items others : List Value} :
    Rearranged (.array items) (.array others) ↔ List.Forall₂ Rearranged items others := by
  constructor
  · intro rearranged
    cases rearranged with
    | array each => exact each
  · exact .array

private theorem rearranged_hash {entries others : Attributes} :
    Rearranged (.hash entries) (.hash others) ↔ Corresponds Rearranged entries others := by
  constructor
  · intro rearranged
    cases rearranged with
    | hash keys values order => exact ⟨_, forall₂_entries.mpr ⟨keys, values⟩, order⟩
  · intro ⟨middle, each, order⟩
    obtain ⟨keys, values⟩ := forall₂_entries.mp each
    exact .hash keys values order

private theorem rearranged_self (value : Value) : Rearranged value value := by
  induction value with
  | nil => exact .nil
  | bool value => exact .bool value
  | integer n => exact .integer n
  | unsigned n => exact .unsigned n
  | float x => exact .float x
  | string text => exact .string text
  | array items ih => exact .array (List.forall₂_same.mpr ih)
  | hash entries ih =>
    apply rearranged_hash.mpr
    exact ⟨entries, List.forall₂_same.mpr fun entry member => ⟨rfl, ih entry member⟩, .refl entries⟩

theorem Rearranged.symm {first second : Value} (rearranged : Rearranged first second) : Rearranged second first := by
  induction first generalizing second with
  | float x =>
    cases rearranged with
    | float x => exact .float x
    | zero before behind => exact .zero behind before
  | array items ih =>
    cases rearranged with
    | array each =>
      apply Rearranged.array
      apply List.Forall₂.flip
      exact forall₂_imp_of_mem each fun item member other => ih item member
  | hash entries ih =>
    cases rearranged with
    | hash keys values order =>
      have corresponds := rearranged_hash.mp (.hash keys values order)
      apply rearranged_hash.mpr
      exact (corresponds.imp fun entry member twin => ih entry member).flip
  | _ =>
    cases rearranged
    constructor

theorem Rearranged.trans {first second third : Value} (before : Rearranged first second)
    (behind : Rearranged second third) : Rearranged first third := by
  induction first generalizing second third with
  | float x =>
    cases before with
    | float x => exact behind
    | zero small also =>
      cases behind with
      | float y => exact .zero small also
      | zero _ last => exact .zero small last
  | array items ih =>
    cases before with
    | array each =>
      cases behind with
      | array others =>
        apply Rearranged.array
        apply forall₂_imp_of_mem (forall₂_comp each others)
        intro item member last ⟨other, here, later⟩
        exact ih item member here later
  | hash entries ih =>
    cases before with
    | hash keys values order =>
      cases behind with
      | hash names twins moved =>
        have corresponds := rearranged_hash.mp (.hash keys values order)
        have also := rearranged_hash.mp (.hash names twins moved)
        apply rearranged_hash.mpr
        apply (corresponds.comp also).imp
        intro entry member twin ⟨other, here, later⟩
        exact ih entry member here later
  | _ =>
    cases before
    exact behind

end Relation

section Values

private theorem defined_array {items : List Value} : Defined (.array items) ↔ ∀ item ∈ items, Defined item := by
  simp [Defined, everywhere_array, isNumber]

private theorem defined_hash {entries : Attributes} : Defined (.hash entries) ↔ ∀ entry ∈ entries, Defined entry.2 := by
  simp [Defined, everywhere_hash, isNumber]

private theorem equal_float {x y : Binary64} :
    x.equal y = true ↔ Rearranged (.float x) (.float y) ∧ Defined (.float x) ∧ Defined (.float y) := by
  have definedFloat (z : Binary64) : Defined (.float z) ↔ z.isNaN = false := by
    simp [Defined, everywhere, isNumber]
  simp only [Binary64.equal, definedFloat, Bool.and_eq_true, Bool.or_eq_true, Bool.not_eq_true', beq_iff_eq]
  constructor
  · intro equal
    obtain ⟨⟨number, also⟩, same⟩ := equal
    refine ⟨?_, number, also⟩
    rcases same with bits | ⟨small, less⟩
    · rw [show x = y from congrArg Binary64.mk bits]
      exact .float y
    · exact .zero small less
  · intro rearranged
    obtain ⟨related, number, also⟩ := rearranged
    refine ⟨⟨number, also⟩, ?_⟩
    cases related with
    | float x => exact Or.inl rfl
    | zero small less => exact Or.inr ⟨small, less⟩

private theorem equal_iff_apart {first second : Value} (unequal : first.equal second = false)
    (unrelated : ¬ Rearranged first second) :
    first.equal second = true ↔ Rearranged first second ∧ Defined first ∧ Defined second := by
  simp [unequal, unrelated]

private theorem equal_iff_same {first second : Value} (decides : first.equal second = true ↔ first = second)
    (related : Rearranged first second → first = second) (defined : Defined first) :
    first.equal second = true ↔ Rearranged first second ∧ Defined first ∧ Defined second := by
  constructor
  · intro equal
    rw [← decides.mp equal]
    exact ⟨rearranged_self first, defined, defined⟩
  · intro ⟨rearranged, _⟩
    exact decides.mpr (related rearranged)

private theorem equal_iff_array {items others : List Value}
    (each : ∀ item ∈ items, ∀ other, item.equal other = true ↔ Rearranged item other ∧ Defined item ∧ Defined other) :
    (Value.array items).equal (.array others) = true ↔
      Rearranged (.array items) (.array others) ∧ Defined (.array items) ∧ Defined (.array others) := by
  rw [equal_array, rearranged_array, defined_array, defined_array, ← forall₂_members]
  constructor
  · exact fun equal => forall₂_imp_of_mem equal fun item member other => (each item member other).mp
  · exact fun related => forall₂_imp_of_mem related fun item member other => (each item member other).mpr

private theorem equal_iff_hash {entries others : Attributes} (unique : entries.Unique)
    (each : ∀ entry ∈ entries, ∀ other,
      entry.2.equal other = true ↔ Rearranged entry.2 other ∧ Defined entry.2 ∧ Defined other) :
    (Value.hash entries).equal (.hash others) = true ↔
      Rearranged (.hash entries) (.hash others) ∧ Defined (.hash entries) ∧ Defined (.hash others) := by
  rw [equal_hash, agree_iff unique, rearranged_hash, defined_hash, defined_hash, ← corresponds_and]
  constructor
  · exact fun equal => equal.imp fun entry member other => (each entry member other).mp
  · exact fun related => related.imp fun entry member other => (each entry member other).mpr

/-- Keys have to be unique on one side only: a map with as many entries that has all these keys has no key twice. -/
theorem equal_iff {first second : Value} (keyed : Keyed first) :
    first.equal second = true ↔ Rearranged first second ∧ Defined first ∧ Defined second := by
  induction first generalizing second with
  | nil =>
    cases second with
    | nil => exact equal_iff_same (by simp [Value.equal]) (fun _ => rfl) rfl
    | _ => exact equal_iff_apart rfl (by intro related; cases related)
  | bool value =>
    cases second with
    | bool other => exact equal_iff_same (by simp [Value.equal]) (by intro related; cases related; rfl) rfl
    | _ => exact equal_iff_apart rfl (by intro related; cases related)
  | integer n =>
    cases second with
    | integer m => exact equal_iff_same (by simp [Value.equal]) (by intro related; cases related; rfl) rfl
    | _ => exact equal_iff_apart rfl (by intro related; cases related)
  | unsigned n =>
    cases second with
    | unsigned m => exact equal_iff_same (by simp [Value.equal]) (by intro related; cases related; rfl) rfl
    | _ => exact equal_iff_apart rfl (by intro related; cases related)
  | float x =>
    cases second with
    | float y => exact equal_float
    | _ => exact equal_iff_apart rfl (by intro related; cases related)
  | string text =>
    cases second with
    | string other => exact equal_iff_same (by simp [Value.equal]) (by intro related; cases related; rfl) rfl
    | _ => exact equal_iff_apart rfl (by intro related; cases related)
  | array items ih =>
    cases second with
    | array others => exact equal_iff_array fun item member other => ih item member (keyed_array.mp keyed item member)
    | _ => exact equal_iff_apart rfl (by intro related; cases related)
  | hash entries ih =>
    cases second with
    | hash others =>
      obtain ⟨unique, members⟩ := keyed_hash.mp keyed
      exact equal_iff_hash unique fun entry member other => ih entry member (members entry member)
    | _ => exact equal_iff_apart rfl (by intro related; cases related)

end Values

section Entities

private theorem role_equal_iff {first second : Role} (keyed : KeyedRole first) :
    first.equal second = true ↔ RearrangedRole first second ∧ DefinedRole first ∧ DefinedRole second := by
  simp only [Role.equal, Bool.and_eq_true, beq_iff_eq, equal_iff keyed.defaultAttributes,
    equal_iff keyed.overrideAttributes, agree_iff keyed.envRunLists, corresponds_eq]
  constructor
  · intro ⟨⟨⟨⟨⟨name, description⟩, defaults, before, after⟩, overrides, also, last⟩, runList⟩, lists⟩
    exact ⟨⟨name, description, defaults, overrides, runList, lists⟩, ⟨before, also⟩, ⟨after, last⟩⟩
  · intro ⟨⟨name, description, defaults, overrides, runList, lists⟩, ⟨before, also⟩, ⟨after, last⟩⟩
    exact ⟨⟨⟨⟨⟨name, description⟩, defaults, before, after⟩, overrides, also, last⟩, runList⟩, lists⟩

private theorem environment_equal_iff {first second : Environment} (keyed : KeyedEnvironment first) :
    first.equal second = true ↔
      RearrangedEnvironment first second ∧ DefinedEnvironment first ∧ DefinedEnvironment second := by
  simp only [Environment.equal, Bool.and_eq_true, beq_iff_eq, equal_iff keyed.defaultAttributes,
    equal_iff keyed.overrideAttributes, agree_iff keyed.cookbookVersions, corresponds_eq]
  constructor
  · intro ⟨⟨⟨⟨name, description⟩, cookbooks⟩, defaults, before, after⟩, overrides, also, last⟩
    exact ⟨⟨name, description, cookbooks, defaults, overrides⟩, ⟨before, also⟩, ⟨after, last⟩⟩
  · intro ⟨⟨name, description, cookbooks, defaults, overrides⟩, ⟨before, also⟩, ⟨after, last⟩⟩
    exact ⟨⟨⟨⟨name, description⟩, cookbooks⟩, defaults, before, after⟩, overrides, also, last⟩

private theorem rearrangedRole_self (role : Role) : RearrangedRole role role :=
  ⟨rfl, rfl, rearranged_self _, rearranged_self _, rfl, .refl _⟩

theorem RearrangedRole.symm {first second : Role} (related : RearrangedRole first second) :
    RearrangedRole second first :=
  ⟨related.name.symm, related.description.symm, related.defaultAttributes.symm, related.overrideAttributes.symm,
    related.runList.symm, related.envRunLists.symm⟩

theorem RearrangedRole.trans {first second third : Role} (related : RearrangedRole first second)
    (also : RearrangedRole second third) : RearrangedRole first third :=
  ⟨related.name.trans also.name, related.description.trans also.description,
    related.defaultAttributes.trans also.defaultAttributes, related.overrideAttributes.trans also.overrideAttributes,
    related.runList.trans also.runList, related.envRunLists.trans also.envRunLists⟩

private theorem rearrangedEnvironment_self (environment : Environment) :
    RearrangedEnvironment environment environment :=
  ⟨rfl, rfl, .refl _, rearranged_self _, rearranged_self _⟩

theorem RearrangedEnvironment.symm {first second : Environment} (related : RearrangedEnvironment first second) :
    RearrangedEnvironment second first :=
  ⟨related.name.symm, related.description.symm, related.cookbookVersions.symm, related.defaultAttributes.symm,
    related.overrideAttributes.symm⟩

theorem RearrangedEnvironment.trans {first second third : Environment} (related : RearrangedEnvironment first second)
    (also : RearrangedEnvironment second third) : RearrangedEnvironment first third :=
  ⟨related.name.trans also.name, related.description.trans also.description,
    related.cookbookVersions.trans also.cookbookVersions, related.defaultAttributes.trans also.defaultAttributes,
    related.overrideAttributes.trans also.overrideAttributes⟩

end Entities

section Laws

/-- A test that finds rearrangements without a NaN on either side has the laws of the relation. -/
theorem equates {α : Type} {equal : α → α → Bool} {keyed defined : α → Prop} {rearranged : α → α → Prop}
    (decides : ∀ {first second}, keyed first →
      (equal first second = true ↔ rearranged first second ∧ defined first ∧ defined second))
    (self : ∀ value, rearranged value value)
    (symm : ∀ {first second}, rearranged first second → rearranged second first)
    (trans : ∀ {first second third}, rearranged first second → rearranged second third → rearranged first third) :
    Equates equal keyed defined rearranged := by
  constructor
  · intro first second unique also same
    obtain ⟨related, before, after⟩ := (decides unique).mp same
    exact (decides also).mpr ⟨symm related, after, before⟩
  · intro first second third unique also _ same next
    obtain ⟨related, before, _⟩ := (decides unique).mp same
    obtain ⟨further, _, after⟩ := (decides also).mp next
    exact (decides unique).mpr ⟨trans related further, before, after⟩
  · intro value unique
    rw [decides unique]
    exact ⟨fun same => same.2.1, fun whole => ⟨self value, whole, whole⟩⟩
  · intro first second unique _ before after
    rw [decides unique]
    exact ⟨fun same => same.1, fun related => ⟨related, before, after⟩⟩

/-- Equality of values, roles and environments whose keys are unique sees through rearrangements and through nothing
else. The kinds of numbers are apart, and arrays are compared in order. -/
theorem equality_laws :
    Equates Value.equal Keyed Defined Rearranged ∧
      Equates Role.equal KeyedRole DefinedRole RearrangedRole ∧
      Equates Environment.equal KeyedEnvironment DefinedEnvironment RearrangedEnvironment ∧
      (∀ items others, (Value.array items).equal (.array others) = true ↔
        List.Forall₂ (fun item other => item.equal other = true) items others) ∧
      ∀ n m x, (Value.integer n).equal (.unsigned m) = false ∧ (Value.integer n).equal (.float x) = false ∧
        (Value.unsigned m).equal (.float x) = false := by
  refine ⟨?_, ?_, ?_, fun _ _ => equal_array, fun _ _ _ => ⟨rfl, rfl, rfl⟩⟩
  · exact equates equal_iff rearranged_self .symm .trans
  · exact equates role_equal_iff rearrangedRole_self .symm .trans
  · exact equates environment_equal_iff rearrangedEnvironment_self .symm .trans

/-- Attributes with keys out of order and a negative zero. -/
def shuffled : Value :=
  .hash [("b", .hash [("y", .float ⟨0x8000000000000000⟩), ("x", .array [.unsigned 5, .hash []])]), ("a", .nil)]

def gathered : Value :=
  .hash [("a", .nil), ("b", .hash [("x", .array [.unsigned 5, .hash []]), ("y", .float ⟨0⟩)])]

theorem equality_laws_shuffled :
    Keyed shuffled ∧ Keyed gathered ∧ Defined shuffled ∧ Defined gathered ∧ shuffled.equal gathered = true ∧
      gathered.equal shuffled = true ∧ Rearranged shuffled gathered ∧ shuffled.equal shuffled = true := by
  have keyed : Keyed shuffled := by decide
  have also : Keyed gathered := by decide
  have whole : Defined shuffled := rfl
  have rest : Defined gathered := rfl
  have same : shuffled.equal gathered = true := rfl
  have laws := equality_laws.1
  exact ⟨keyed, also, whole, rest, same, laws.symm shuffled gathered keyed also same,
    (laws.equal_iff shuffled gathered keyed also whole rest).mp same, (laws.self_iff shuffled keyed).mpr whole⟩

end Laws

end ChefDsl.Proofs.Rearrangement
