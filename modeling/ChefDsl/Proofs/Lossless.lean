import ChefDsl.Proofs.CanonicalEntities
import ChefDsl.Proofs.FileReading
import ChefDsl.Proofs.ParsedKeys

/-! The file of a loaded entity tells everything about it. Reading the file gives the calls back, and the calls of
canonical entities are different for different entities: the kinds of whole numbers have different ranges, items are
shown by texts that they are read from, and the run list that is not written can be had from the one that is. -/

namespace ChefDsl.Proofs.Lossless
open Document SourceReader ValueReading FileReading RunListItems CanonicalValues CanonicalEntities UniqueKeys Results

/-- Lists are equal if their images are and no member of one shares its image with another member of the other. -/
theorem eq_of_map_eq {α β : Type} {change : α → β} {first second : List α}
    (apart : ∀ a ∈ first, ∀ b ∈ second, change a = change b → a = b) (same : first.map change = second.map change) :
    first = second := by
  induction first generalizing second with
  | nil => exact (List.map_eq_nil_iff.mp same.symm).symm
  | cons a first ih =>
    cases second with
    | nil => cases same
    | cons b second =>
      obtain ⟨heads, tails⟩ := List.cons_eq_cons.mp same
      have head := apart a (by simp) b (by simp) heads
      have tail := ih (fun c inside d among => apart c (by simp [inside]) d (by simp [among])) tails
      rw [head, tail]

private theorem toInt_ne_toNat (n : Int64) {m : UInt64} (beyond : Canonical (.unsigned m)) : n.toInt ≠ m.toNat := by
  have range : 0x7FFFFFFFFFFFFFFF < m.toNat := of_decide_eq_true beyond
  have bound := n.toInt_lt
  omega

private theorem datum_inj {first second : Value} (canonical : Canonical first) (other : Canonical second)
    (same : datum first = datum second) : first = second := by
  induction first generalizing second with
  | nil => cases second <;> first | rfl | cases same
  | bool value =>
    cases second <;> first | cases same
    rfl
  | integer n =>
    cases second with
    | integer m => exact congrArg Value.integer (Int64.toInt_inj.mp (Datum.integer.inj same))
    -- The language does not tell the two kinds of whole numbers apart, but their canonical ranges are disjoint.
    | unsigned m => exact absurd (Datum.integer.inj same) (toInt_ne_toNat n other)
    | _ => cases same
  | unsigned n =>
    cases second with
    | integer m => exact absurd (Datum.integer.inj same).symm (toInt_ne_toNat m canonical)
    | unsigned m =>
      have values := Int.ofNat_inj.mp (Datum.integer.inj same)
      exact congrArg Value.unsigned (UInt64.toNat_inj.mp values)
    | _ => cases same
  | float x =>
    cases second with
    | float y =>
      have bits := Datum.float.inj same
      rw [isNaN_of_canonical canonical, isNaN_of_canonical other] at bits
      exact congrArg Value.float bits
    | _ => cases same
  | string text =>
    cases second with
    | string other => exact congrArg Value.string (Datum.string.inj same)
    | _ => cases same
  | array items ih =>
    cases second with
    | array others =>
      rw [datum, datum, dataOf_eq, dataOf_eq] at same
      have each := canonical_array.mp canonical
      have among := canonical_array.mp other
      apply congrArg Value.array
      refine eq_of_map_eq ?_ (Datum.array.inj same)
      intro a inside b member equal
      exact ih a inside (each a inside) (among b member) equal
    | _ => cases same
  | hash entries ih =>
    cases second with
    | hash others =>
      rw [datum, datum, entriesOf_eq, entriesOf_eq] at same
      have each := canonical_hash.mp canonical
      have among := canonical_hash.mp other
      apply congrArg Value.hash
      refine eq_of_map_eq ?_ (Datum.hash.inj same)
      intro a inside b member equal
      obtain ⟨keys, values⟩ := Prod.ext_iff.mp equal
      exact Prod.ext keys (ih a inside (each a inside) (among b member) values)
    | _ => cases same

private theorem attributeData_inj {first second : Attributes} (canonical : Canonical (.hash first))
    (other : Canonical (.hash second)) (same : attributeData first = attributeData second) : first = second := by
  have data : datum (.hash first) = datum (.hash second) := by
    rw [datum, datum, entriesOf_eq, entriesOf_eq]
    exact same
  exact Value.hash.inj (datum_inj canonical other data)

private theorem itemData_inj {first second : RunList} (valid : ∀ item ∈ first, Valid item)
    (other : ∀ item ∈ second, Valid item) (same : itemData first = itemData second) : first = second := by
  refine eq_of_map_eq ?_ same
  intro a inside b among shown
  have read := parse_toString (valid a inside)
  rw [Datum.string.inj shown, parse_toString (other b among)] at read
  exact (Except.ok.inj read).symm

section Roles
variable {first second : Role}

/-- Either of the two calls with run lists determines both kinds of run lists. -/
theorem runListing_inj (canonical : CanonicalRole first) (other : CanonicalRole second)
    (same : runListing first = runListing second) :
    first.runList = second.runList ∧ first.envRunLists = second.envRunLists := by
  by_cases single : first.envRunLists.length ≤ 1 <;> by_cases alone : second.envRunLists.length ≤ 1 <;>
    simp only [runListing, single, alone, ↓reduceIte, Call.mk.injEq] at same
  · have lists := itemData_inj canonical.runList other.runList same.2
    rw [single_runList canonical single, single_runList other alone, lists]
    exact ⟨rfl, rfl⟩
  · exact absurd same.1 (by decide)
  · exact absurd same.1 (by decide)
  · have entries := Datum.hash.inj (List.cons_eq_cons.mp same.2).1
    have lists : first.envRunLists = second.envRunLists := by
      refine eq_of_map_eq ?_ entries
      intro a inside b among equal
      obtain ⟨keys, items⟩ := Prod.ext_iff.mp equal
      exact Prod.ext keys
        (itemData_inj (canonical.envRunLists a inside) (other.envRunLists b among) (Datum.array.inj items))
    have heads := canonical.defaultList
    rw [lists, other.defaultList] at heads
    exact ⟨(Prod.ext_iff.mp (Option.some.inj heads)).2.symm, lists⟩

private theorem role_inj (canonical : CanonicalRole first) (other : CanonicalRole second)
    (same : entityCalls (.role first) = entityCalls (.role second)) : first = second := by
  simp only [entityCalls, List.cons.injEq, Call.mk.injEq, Datum.string.injEq, true_and, and_true] at same
  obtain ⟨name, description, defaults, overrides, lists⟩ := same
  obtain ⟨runList, envRunLists⟩ := runListing_inj canonical other lists
  have defaultAttributes := attributeData_inj canonical.defaultAttributes other.defaultAttributes defaults
  have overrideAttributes := attributeData_inj canonical.overrideAttributes other.overrideAttributes overrides
  cases first
  cases second
  simp only [Role.mk.injEq]
  exact ⟨name, description, defaultAttributes, overrideAttributes, runList, envRunLists⟩

end Roles

private theorem environment_inj {first second : Environment} (canonical : CanonicalEnvironment first)
    (other : CanonicalEnvironment second)
    (same : entityCalls (.environment first) = entityCalls (.environment second)) : first = second := by
  obtain ⟨front, back⟩ := List.append_inj' same rfl
  obtain ⟨head, middle⟩ := List.append_inj front rfl
  simp only [List.cons.injEq, Call.mk.injEq, Datum.string.injEq, true_and, and_true] at head back
  have cookbookVersions : first.cookbookVersions = second.cookbookVersions := by
    refine eq_of_map_eq ?_ middle
    intro a _ b _ equal
    simp only [Call.mk.injEq, List.cons.injEq, Datum.string.injEq, true_and, and_true] at equal
    exact Prod.ext equal.1 equal.2
  have defaultAttributes := attributeData_inj canonical.defaultAttributes other.defaultAttributes back.1
  have overrideAttributes := attributeData_inj canonical.overrideAttributes other.overrideAttributes back.2
  cases first
  cases second
  simp only [Environment.mk.injEq]
  exact ⟨head.1, head.2, cookbookVersions, defaultAttributes, overrideAttributes⟩

/-- A role ends with its run lists and an environment with its attributes. -/
theorem entityCalls_kind (role : Role) (environment : Environment) :
    entityCalls (.role role) ≠ entityCalls (.environment environment) := by
  intro same
  have last := congrArg (fun calls => calls.getLast?.map Call.method) same
  simp only [entityCalls, List.getLast?_append, List.getLast?_cons_cons, List.getLast?_singleton, Option.some_or,
    Option.map_some, Option.some.injEq, runListing] at last
  split at last
  · simp at last
  · simp at last

private theorem entityCalls_inj {first second : Entity} (canonical : CanonicalEntity first)
    (other : CanonicalEntity second) (same : entityCalls first = entityCalls second) : first = second := by
  cases first with
  | role role =>
    cases second with
    | role twin => exact congrArg Entity.role (role_inj canonical other same)
    | environment environment => exact absurd same (entityCalls_kind role environment)
  | environment environment =>
    cases second with
    | role role => exact absurd same.symm (entityCalls_kind role environment)
    | environment twin => exact congrArg Entity.environment (environment_inj canonical other same)

/-- The file of an entity determines its calls, because they are what is read back from it. -/
theorem entityCalls_of_source {first second : Entity} (keyed : KeyedEntity first) (other : KeyedEntity second)
    (same : first.source = second.source) : entityCalls first = entityCalls second := by
  rw [SourceText.entity_source, SourceText.entity_source, Except.ok.injEq] at same
  have calls := readFile_entityBlocks keyed
  rw [same, readFile_entityBlocks other] at calls
  exact (Option.some.inj calls).symm

private theorem loaded_entity {text : String} {entity : Entity} (loaded : loadText text = .ok entity) :
    CanonicalEntity entity ∧ KeyedEntity entity ∧ toSource text = entity.source := by
  obtain ⟨document, parsed, read⟩ := bind_eq_ok.mp loaded
  refine ⟨canonical_of_load read, keyed_of_load (ParsedKeys.keyed_of_parse parsed) read, ?_⟩
  rw [toSource, loaded, ok_bind]

/-- Two texts that describe entities and have the same DSL source describe the same entity. -/
theorem eq_of_toSource {first second : String} {entity other : Entity} {text : Text}
    (loaded : loadText first = .ok entity) (twin : loadText second = .ok other)
    (source : toSource first = .ok text) (same : toSource second = .ok text) : entity = other := by
  obtain ⟨canonical, keyed, written⟩ := loaded_entity loaded
  obtain ⟨proper, different, again⟩ := loaded_entity twin
  rw [← same, written, again] at source
  exact entityCalls_inj canonical proper (entityCalls_of_source keyed different source)

def plainText : String := "\x7b\"name\": \"web\", \"chef_type\": \"role\", \"run_list\": [\"base\"]\x7d"

def wordyText : String :=
  "\x7b\"recipes\": [\"recipe[base]\"], \"json_class\": \"Chef::Role\", \"description\": null, \"name\": \"web\"\x7d"

theorem eq_of_toSource_web :
    ∃ entity other text, loadText plainText = .ok entity ∧ loadText wordyText = .ok other ∧
      toSource plainText = .ok text ∧ toSource wordyText = .ok text ∧ entity = other := by
  have found : (toSource plainText).toOption.isSome = true := by decide +kernel
  have twins : (toSource wordyText).toOption = (toSource plainText).toOption := by decide +kernel
  obtain ⟨text, given⟩ := Option.isSome_iff_exists.mp found
  have source := eq_ok_of_toOption given
  have same := eq_ok_of_toOption (twins.trans given)
  obtain ⟨entity, loaded, _⟩ := bind_eq_ok.mp source
  obtain ⟨other, twin, _⟩ := bind_eq_ok.mp same
  exact ⟨entity, other, text, loaded, twin, source, same, eq_of_toSource loaded twin source same⟩

end ChefDsl.Proofs.Lossless
