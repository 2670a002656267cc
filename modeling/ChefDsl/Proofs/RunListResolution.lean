import ChefDsl.Proofs.CanonicalEntities
import ChefDsl.Proofs.DocumentFields
import ChefDsl.Proofs.FileReading
import ChefDsl.Proofs.ValueEquality

/-! The run lists that a role gets from its document, and those that its file gives. The global list goes first, a list
of the document for the default environment takes its place without moving it, and the others follow in their order.
The file gives all of them, by environment as soon as there is one besides the default environment. -/

namespace ChefDsl.Proofs.RunListResolution
open Document DocumentFields RunList RunListItems SourceReader FileReading CanonicalEntities CanonicalValues
  UniqueKeys ValueEquality Results

section Statement

/-- The value is a text that is read as the item. -/
def Names (value : Json) (item : Item) : Prop := ∃ text, value = .string text ∧ Item.parse text = .ok item

/-- The value is an array whose members are read, one by one, as the items. -/
def Lists (value : Json) (items : RunList) : Prop := ∃ values, value = .array values ∧ List.Forall₂ Names values items

/-- The list for all environments, which the old field gives only where the new one is absent. -/
inductive GlobalList (entries : Entries Json) : RunList → Prop where
  | runList {value items} (present : Holds entries "run_list" value) (lists : Lists value items) :
    GlobalList entries items
  | recipes {value items} (absent : Absent entries "run_list") (present : Holds entries "recipes" value)
    (lists : Lists value items) : GlobalList entries items
  | nothing (absent : Absent entries "run_list") (also : Absent entries "recipes") : GlobalList entries []

/-- The lists by environment as the document gives them. -/
inductive OwnLists (entries : Entries Json) : Entries Json → Prop where
  | given {lists} (present : Holds entries "env_run_lists" (.object lists)) : OwnLists entries lists
  | nothing (absent : Absent entries "env_run_lists") : OwnLists entries []

/-- The run lists of a role are made of the global list and the document's own lists, and none is lost. -/
structure Resolves (globalList : RunList) (own : Entries Json) (role : Role) : Prop where
  keys : role.envRunLists.map Prod.fst = "_default" :: (own.map Prod.fst).filter (· ≠ "_default")
  unique : role.envRunLists.Unique
  given : ∀ entry ∈ own, ∃ items, Lists entry.2 items ∧ role.envRunLists.lookup entry.1 = some items
  fallback : "_default" ∉ own.map Prod.fst → role.envRunLists.lookup "_default" = some globalList
  runList : role.envRunLists.lookup "_default" = some role.runList

/-- The text is the one that shows the item, and it is read as the item again. -/
def Displays (text : String) (item : Item) : Prop := text = item.toString ∧ Item.parse text = .ok item

/-- The calls of a file give the run list of an environment, item by item. -/
inductive Gives (calls : List Call) : String × RunList → Prop where
  | globalList {texts items} (made : ⟨"run_list", texts.map Datum.string⟩ ∈ calls)
    (displayed : List.Forall₂ Displays texts items) : Gives calls ("_default", items)
  | byEnvironment {lists texts entry} (made : ⟨"env_run_lists", [.hash lists]⟩ ∈ calls)
    (given : (entry.1, .array (texts.map Datum.string)) ∈ lists) (displayed : List.Forall₂ Displays texts entry.2) :
    Gives calls entry

/-- The file gives the global list alone where there is no other, and all lists otherwise. -/
structure Written (own : Entries Json) (role : Role) (calls : List Call) : Prop where
  runList : "run_list" ∈ calls.map Call.method ↔ ∀ entry ∈ own, entry.1 = "_default"
  envRunLists : "env_run_lists" ∈ calls.map Call.method ↔ ¬ ∀ entry ∈ own, entry.1 = "_default"
  complete : ∀ entry ∈ role.envRunLists, Gives calls entry

end Statement

section Reading
variable {entries : Entries Json} {items : RunList}

private theorem lists_of_runListItems {field : String} {value : Json} (read : runListItems field value = .ok items) :
    Lists value items := by
  cases value with
  | array values =>
    refine ⟨values, rfl, (mapM_eq_ok.mp read).imp ?_⟩
    intro member item gives
    cases member with
    | string text => exact ⟨text, rfl, gives⟩
    | _ => cases gives
  | _ => cases read

private theorem globalList_of_read (read : globalRunList entries = .ok items) : GlobalList entries items := by
  rcases absent_or_holds entries "run_list" with absent | ⟨value, present⟩
  · rw [globalRunList, field?_eq_none.mpr absent] at read
    rcases absent_or_holds entries "recipes" with also | ⟨value, present⟩
    · rw [runListField, field?_eq_none.mpr also] at read
      cases read
      exact .nothing absent also
    · rw [runListField, field?_eq_some.mpr present] at read
      exact .recipes absent present (lists_of_runListItems read)
  · rw [globalRunList, field?_eq_some.mpr present] at read
    exact .runList present (lists_of_runListItems read)

private theorem ownLists_of_object {lists : Entries Json}
    (read : optionalObject .role entries "env_run_lists" = .ok lists) :
    OwnLists entries lists := by
  rcases absent_or_holds entries "env_run_lists" with absent | ⟨value, present⟩
  · rw [optionalObject, field?_eq_none.mpr absent] at read
    cases read
    exact .nothing absent
  · rw [optionalObject, field?_eq_some.mpr present] at read
    cases value with
    | object fields =>
      cases read
      exact .given present
    | _ => cases read

private theorem ownRunLists_eq_ok {own : Entries RunList} (read : ownRunLists entries = .ok own) :
    ∃ lists, optionalObject .role entries "env_run_lists" = .ok lists ∧
      List.Forall₂ (fun entry list => entry.1 = list.1 ∧ Lists entry.2 list.2) lists own := by
  obtain ⟨lists, object, each⟩ := bind_eq_ok.mp read
  refine ⟨lists, object, (mapM_eq_ok.mp each).imp ?_⟩
  intro entry list gives
  obtain ⟨items, found, same⟩ := bind_eq_ok.mp gives
  cases same
  exact ⟨rfl, lists_of_runListItems found⟩

end Reading

section Resolution
variable {entries : Entries Json} {own : Entries RunList}

private theorem keys_resolveRunLists (globalList : RunList) (unique : own.Unique) :
    (resolveRunLists globalList own).map Prod.fst = "_default" :: (own.map Prod.fst).filter (· ≠ "_default") := by
  rw [resolveRunLists, keys_putAll _ unique]
  simp [defaultEnvironment]

private theorem lookup_resolveRunLists (globalList : RunList) (unique : own.Unique) (environment : String) :
    (resolveRunLists globalList own).lookup environment =
      (own.lookup environment).or (if environment = "_default" then some globalList else none) := by
  rw [resolveRunLists, lookup_putAll _ unique, defaultEnvironment]
  by_cases same : environment = "_default"
  · simp [same]
  · simp [List.lookup_cons, beq_eq_false_iff_ne.mpr same, same]

private theorem lookup_default {role : Role} (canonical : CanonicalRole role) :
    role.envRunLists.lookup "_default" = some role.runList := by
  obtain ⟨others, split⟩ := List.head?_eq_some_iff.mp canonical.defaultList
  rw [split, List.lookup_cons_self]

private theorem resolves_of_read (keyed : KeyedJson (.object entries)) {role : Role}
    (read : Document.role entries = .ok role) :
    ∃ globalList own, GlobalList entries globalList ∧ OwnLists entries own ∧ Resolves globalList own role := by
  have canonical := canonical_role read
  simp only [Document.role, bind_eq_ok, pure_eq_ok, Except.ok.injEq] at read
  obtain ⟨globalList, globalRead, own, ownRead, _, _, _, _, _, _, _, _, rfl⟩ := read
  obtain ⟨lists, object, each⟩ := ownRunLists_eq_ok ownRead
  have sameKeys := (forall₂_entries.mp each).1
  have listsUnique := (keyedJson_object.mp (keyed_optionalObject keyed object)).1
  have unique : own.Unique := by rwa [Entries.Unique, ← sameKeys]
  refine ⟨globalList, lists, globalList_of_read globalRead, ownLists_of_object object, ?_⟩
  refine ⟨?_, unique_resolveRunLists globalList own, ?_, ?_, lookup_default canonical⟩
  · rw [sameKeys]
    exact keys_resolveRunLists globalList unique
  · intro entry member
    have found := lookup_of_forall₂ each entry.1
    rw [(lookup_eq_some listsUnique).mpr member] at found
    cases present : own.lookup entry.1 with
    | none =>
      rw [present] at found
      cases found
    | some items =>
      rw [present] at found
      obtain ⟨read⟩ := found
      refine ⟨items, read, ?_⟩
      rw [lookup_resolveRunLists globalList unique, present]
      rfl
  · intro missing
    rw [sameKeys] at missing
    rw [lookup_resolveRunLists globalList unique, lookup_missing missing]
    rfl

end Resolution

section Writing
variable {globalList : RunList} {own : Entries Json} {role : Role}

private theorem length_le_one_iff (resolves : Resolves globalList own role) :
    role.envRunLists.length ≤ 1 ↔ ∀ entry ∈ own, entry.1 = "_default" := by
  have count := congrArg List.length resolves.keys
  rw [List.length_map, List.length_cons] at count
  have nothing (others : Nat) : others + 1 ≤ 1 ↔ others = 0 := by omega
  rw [count, nothing, List.length_eq_zero_iff]
  simp

private theorem methods_entityCalls (role : Role) : (entityCalls (.role role)).map Call.method =
    ["name", "description", "default_attributes", "override_attributes",
      if role.envRunLists.length ≤ 1 then "run_list" else "env_run_lists"] := by
  simp only [entityCalls, runListing]
  split <;> rfl

private theorem runList_mem_methods (role : Role) :
    "run_list" ∈ (entityCalls (.role role)).map Call.method ↔ role.envRunLists.length ≤ 1 := by
  rw [methods_entityCalls]
  split
  · next single => simp [single]
  · next several => simp [several]

private theorem envRunLists_mem_methods (role : Role) :
    "env_run_lists" ∈ (entityCalls (.role role)).map Call.method ↔ ¬ role.envRunLists.length ≤ 1 := by
  rw [methods_entityCalls]
  split
  · next single => simp [single]
  · next several => simp [several]

private theorem displays_toString {items : RunList} (valid : ∀ item ∈ items, Valid item) :
    List.Forall₂ Displays (items.map Item.toString) items := by
  rw [List.forall₂_map_left_iff]
  apply List.forall₂_same.mpr
  intro item member
  exact ⟨rfl, parse_toString (valid item member)⟩

private theorem itemData_eq (items : RunList) : itemData items = (items.map Item.toString).map Datum.string := by
  rw [List.map_map]
  rfl

private theorem gives_runListing (canonical : CanonicalRole role) {calls : List Call} (made : runListing role ∈ calls)
    {entry : String × RunList} (member : entry ∈ role.envRunLists) : Gives calls entry := by
  unfold runListing at made
  split at made
  · next single =>
    rw [single_runList canonical single, List.mem_singleton] at member
    rw [itemData_eq] at made
    rw [member]
    exact .globalList made (displays_toString canonical.runList)
  · refine .byEnvironment made (List.mem_map.mpr ⟨entry, member, ?_⟩) (displays_toString (canonical.envRunLists entry member))
    rw [itemData_eq]

private theorem written_entityCalls (canonical : CanonicalRole role) (resolves : Resolves globalList own role) :
    Written own role (entityCalls (.role role)) := by
  have others := length_le_one_iff resolves
  have made : runListing role ∈ entityCalls (.role role) := by simp [entityCalls]
  exact ⟨(runList_mem_methods role).trans others, (envRunLists_mem_methods role).trans (not_congr others),
    fun _ member => gives_runListing canonical made member⟩

/-- The run lists of a loaded role are those of its document in the order of the document, behind the default
environment, and its file gives every one of them in texts that are read as its items. -/
theorem run_lists_resolved {document : Json} {role : Role} (keyed : KeyedJson document)
    (loaded : load document = .ok (.role role)) :
    ∃ entries globalList own, document = .object entries ∧ GlobalList entries globalList ∧ OwnLists entries own ∧
      Resolves globalList own role ∧
      ∃ text calls, role.source = .ok text ∧ readFile text = some calls ∧ Written own role calls := by
  have unique : KeyedEntity (.role role) := keyed_of_load keyed loaded
  obtain ⟨entries, rfl, ⟨same, read, equal⟩ | ⟨environment, _, equal⟩⟩ := load_eq_ok loaded
  · cases equal
    obtain ⟨globalList, own, ofGlobal, ofOwn, resolves⟩ := resolves_of_read keyed read
    refine ⟨entries, globalList, own, rfl, ofGlobal, ofOwn, resolves, ?_⟩
    exact ⟨_, _, SourceText.role_source role, readFile_entityBlocks unique,
      written_entityCalls (canonical_role read) resolves⟩
  · cases equal

/-- A role with an old run list, and a list for the default environment between two others. -/
def migrated : Json :=
  .object [("name", .string "web"), ("run_list", .null), ("chef_type", .string "role"),
    ("recipes", .array [.string "base@1.2", .string "role[db@x]"]),
    ("env_run_lists", .object [("prod", .array [.string "recipe[a]", .string "a"]), ("_default", .array []),
      ("", .array [.string " b::c "])])]

def migratedRole : Role where
  name := "web"
  description := ""
  defaultAttributes := []
  overrideAttributes := []
  runList := []
  envRunLists := [("_default", []), ("prod", [⟨.recipe, "a", none⟩, ⟨.recipe, "a", none⟩]),
    ("", [⟨.recipe, "b::c", none⟩])]

theorem run_lists_resolved_migrated :
    KeyedJson migrated ∧ load migrated = .ok (.role migratedRole) ∧
      ∃ entries globalList own, migrated = .object entries ∧ GlobalList entries globalList ∧ OwnLists entries own ∧
        Resolves globalList own migratedRole ∧
        ∃ text calls, migratedRole.source = .ok text ∧ readFile text = some calls ∧
          Written own migratedRole calls := by
  have keyed : Keyed (.ofJson migrated) := by decide
  have loaded : load migrated = .ok (.role migratedRole) := rfl
  exact ⟨keyed, loaded, run_lists_resolved keyed loaded⟩

end Writing

end ChefDsl.Proofs.RunListResolution
