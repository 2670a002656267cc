import ChefDsl.Proofs.CanonicalEntities
import ChefDsl.Proofs.FileReading
import ChefDsl.Proofs.Settings

/-! Roles built by one change after another. The last change to a field decides it, and an environment has the list that
it was given last. Nothing ties the lists by environment to the global one, as the reading of a document does: a single
list by environment may be for any environment and hold any items, and its items are lost where the file gives the
global list in its place. -/

namespace ChefDsl.Proofs.RoleBuilding
open Role (Change apply build named)
open SourceReader FileReading UniqueKeys CanonicalValues CanonicalEntities

section Statement

/-- The global list that a change sets. -/
def globalList? : Change → Option RunList
  | .runList items => some items
  | _ => none

/-- The list that a change sets for an environment. -/
def environmentList? : Change → Option (String × RunList)
  | .envRunList environment items => some (environment, items)
  | _ => none

def globalLists (changes : List Change) : List RunList := changes.filterMap globalList?

def environmentLists (changes : List Change) : Entries RunList := changes.filterMap environmentList?

/-- Whether the keys of every map in the change are different. -/
def KeyedChange : Change → Prop
  | .defaultAttributes attributes | .overrideAttributes attributes => Keyed (.hash attributes)
  | _ => True

/-- The changes set lists for one environment alone, and for that one the items last. -/
structure SetsOnly (changes : List Change) (environment : String) (items : RunList) : Prop where
  last : (environmentLists changes).getLast? = some (environment, items)
  alone : ∀ list ∈ environmentLists changes, list.1 = environment

/-- Every item of the global list and of the lists by environment is an argument of a call with a run list. -/
def Shows (calls : List Call) (role : Role) : Prop :=
  ∀ list, list = role.runList ∨ list ∈ role.envRunLists.map Prod.snd → ∀ item ∈ list,
    ∃ call ∈ calls, call.method = "run_list" ∧ Datum.string item.toString ∈ call.arguments

/-- A single list by environment is the global list, and the file of the role shows all items of both. -/
def LosesNothing (role : Role) : Prop :=
  ∀ environment items, role.envRunLists = [(environment, items)] → environment = "_default" ∧ items = role.runList ∧
    ∃ text calls, role.source = .ok text ∧ readFile text = some calls ∧ Shows calls role

end Statement

section Building
variable (role : Role) (changes : List Change)

theorem runList_apply (change : Change) : (role.apply change).runList = (globalList? change).getD role.runList := by
  cases change <;> rfl

private theorem envRunLists_apply (change : Change) :
    (role.apply change).envRunLists = role.envRunLists.putAll (environmentList? change).toList := by
  cases change <;> rfl

private theorem keyed_apply {role : Role} (keyed : KeyedRole role) {change : Change} (legible : KeyedChange change) :
    KeyedRole (role.apply change) := by
  obtain ⟨defaults, overrides, lists⟩ := keyed
  cases change with
  | description text => exact ⟨defaults, overrides, lists⟩
  | defaultAttributes attributes => exact ⟨legible, overrides, lists⟩
  | overrideAttributes attributes => exact ⟨defaults, legible, lists⟩
  | runList items => exact ⟨defaults, overrides, lists⟩
  | envRunList environment items => exact ⟨defaults, overrides, lists.put environment items⟩

private theorem runList_foldl : (changes.foldl apply role).runList = (globalLists changes).getLastD role.runList :=
  Settings.field_foldl Role.runList globalList? runList_apply role changes

private theorem envRunLists_foldl :
    (changes.foldl apply role).envRunLists = role.envRunLists.putAll (environmentLists changes) :=
  Settings.entries_foldl Role.envRunLists environmentList? envRunLists_apply role changes

private theorem keyed_foldl {role : Role} (keyed : KeyedRole role) {changes : List Change}
    (legible : ∀ change ∈ changes, KeyedChange change) : KeyedRole (changes.foldl apply role) := by
  induction changes generalizing role with
  | nil => exact keyed
  | cons change rest ih =>
    apply ih (keyed_apply keyed (legible change (by simp)))
    intro other member
    exact legible other (by simp [member])

private theorem keyed_named (name : String) : KeyedRole (named name) :=
  have nothing : Keyed (.hash []) := keyed_hash.mpr ⟨List.nodup_nil, by simp⟩
  ⟨nothing, nothing, List.nodup_nil⟩

private theorem runList_build (name : String) : (build name changes).runList = (globalLists changes).getLastD [] :=
  runList_foldl (named name) changes

theorem envRunLists_build (name : String) :
    (build name changes).envRunLists = Entries.ofPairs (environmentLists changes) :=
  envRunLists_foldl (named name) changes

private theorem envRunLists_eq_single {name environment : String} {changes : List Change} {items : RunList} :
    (build name changes).envRunLists = [(environment, items)] ↔ SetsOnly changes environment items := by
  rw [envRunLists_build, ofPairs_eq_single]
  exact ⟨fun ⟨last, alone⟩ => ⟨last, alone⟩, fun ⟨last, alone⟩ => ⟨last, alone⟩⟩

end Building

section File
variable {role : Role} {environment : String} {items : RunList}

private theorem readFile_role (keyed : KeyedRole role) :
    ∃ text, role.source = .ok text ∧ readFile text = some (entityCalls (.role role)) :=
  have unique : KeyedEntity (.role role) := keyed
  ⟨_, SourceText.role_source role, readFile_entityBlocks unique⟩

/-- The file of a role with a single list by environment has one call with a run list, and that has the global list. -/
theorem runList_calls (single : role.envRunLists = [(environment, items)]) :
    (entityCalls (.role role)).filter (·.method = "run_list") = [⟨"run_list", itemData role.runList⟩] := by
  simp [entityCalls, runListing, single]

private theorem argument_iff (single : role.envRunLists = [(environment, items)]) (item : RunList.Item) :
    (∃ call ∈ entityCalls (.role role), call.method = "run_list" ∧ Datum.string item.toString ∈ call.arguments) ↔
      item.toString ∈ role.runList.map (·.toString) := by
  have only (call : Call) : call ∈ entityCalls (.role role) ∧ call.method = "run_list" ↔
      call = ⟨"run_list", itemData role.runList⟩ := by
    have filtered : call ∈ (entityCalls (.role role)).filter (·.method = "run_list") ↔ _ := List.mem_filter
    rw [runList_calls single, List.mem_singleton, decide_eq_true_iff] at filtered
    exact filtered.symm
  simp only [← and_assoc, only, exists_eq_left]
  simp [itemData]

private theorem shows_iff (single : role.envRunLists = [(environment, items)]) :
    Shows (entityCalls (.role role)) role ↔ ∀ item ∈ items, item.toString ∈ role.runList.map (·.toString) := by
  unfold Shows
  simp only [argument_iff single, single, List.map_cons, List.map_nil, List.mem_singleton]
  constructor
  · intro shown
    exact shown items (Or.inr rfl)
  · rintro shown list (rfl | rfl)
    · intro item member
      exact List.mem_map_of_mem member
    · exact shown

private theorem losesNothing_iff (keyed : KeyedRole role) (single : role.envRunLists = [(environment, items)]) :
    LosesNothing role ↔ environment = "_default" ∧ items = role.runList := by
  constructor
  · intro kept
    obtain ⟨name, same, _⟩ := kept environment items single
    exact ⟨name, same⟩
  · rintro ⟨rfl, rfl⟩ environment items also
    rw [single] at also
    cases also
    obtain ⟨text, written, reads⟩ := readFile_role keyed
    refine ⟨rfl, rfl, text, _, written, reads, (shows_iff single).mpr ?_⟩
    intro item member
    exact List.mem_map_of_mem member

private theorem losesNothing_of_load {document : Json} (keyed : KeyedJson document)
    (loaded : Document.load document = .ok (.role role)) : LosesNothing role := by
  have canonical : CanonicalRole role := canonical_of_load loaded
  intro environment items single
  have alone : role.envRunLists = [("_default", role.runList)] := single_runList canonical (by simp [single])
  exact (losesNothing_iff (keyed_of_load keyed loaded) alone).mpr ⟨rfl, rfl⟩ environment items single

/-- A single list by environment is whatever its environment was given last, and the file of the role gives the list
for all environments in its place. So the role loses nothing exactly if the last list for all environments is the same,
and the single one is for the default environment. -/
theorem single_list_built {name : String} {changes : List Change} (legible : ∀ change ∈ changes, KeyedChange change)
    (single : (build name changes).envRunLists = [(environment, items)]) :
    SetsOnly changes environment items ∧
      (LosesNothing (build name changes) ↔ environment = "_default" ∧ items = (globalLists changes).getLastD []) ∧
      ∃ text calls, (build name changes).source = .ok text ∧ readFile text = some calls ∧
        calls.filter (·.method = "run_list") = [⟨"run_list", itemData ((globalLists changes).getLastD [])⟩] ∧
        (Shows calls (build name changes) ↔
          ∀ item ∈ items, item.toString ∈ ((globalLists changes).getLastD []).map (·.toString)) := by
  have keyed : KeyedRole (build name changes) := keyed_foldl (keyed_named name) legible
  obtain ⟨text, written, reads⟩ := readFile_role keyed
  rw [← runList_build changes name]
  refine ⟨envRunLists_eq_single.mp single, losesNothing_iff keyed single, text, _, written, reads, ?_, ?_⟩
  · exact runList_calls single
  · exact shows_iff single

/-- A role whose list for the default environment is replaced by the list for all environments. -/
def migration : List Change :=
  [.envRunList "_default" [], .description "front", .runList [⟨.recipe, "nginx", none⟩],
    .envRunList "_default" [⟨.recipe, "nginx", none⟩], .defaultAttributes [("port", .unsigned 80)]]

theorem single_list_built_migration :
    (∀ change ∈ migration, KeyedChange change) ∧
      (build "web" migration).envRunLists = [("_default", [⟨.recipe, "nginx", none⟩])] ∧
      SetsOnly migration "_default" [⟨.recipe, "nginx", none⟩] ∧ LosesNothing (build "web" migration) := by
  have legible : ∀ change ∈ migration, KeyedChange change := by
    have ports : Keyed (.hash [("port", .unsigned 80)]) := by decide
    simp [migration, KeyedChange, ports]
  have single : (build "web" migration).envRunLists = [("_default", [⟨.recipe, "nginx", none⟩])] := rfl
  obtain ⟨only, nothing, _⟩ := single_list_built legible single
  exact ⟨legible, single, only, nothing.mpr ⟨rfl, rfl⟩⟩

/-- A role with a recipe for one environment and none for all of them. -/
def production : Role := build "web" [.envRunList "production" [⟨.recipe, "nginx", none⟩]]

theorem production_list_lost : ¬ LosesNothing production ∧
    ∃ text calls, production.source = .ok text ∧ readFile text = some calls ∧ ¬ Shows calls production := by
  have single : production.envRunLists = [("production", [⟨.recipe, "nginx", none⟩])] := rfl
  have keyed : KeyedRole production := keyed_foldl (keyed_named "web") (by simp [KeyedChange])
  obtain ⟨text, written, reads⟩ := readFile_role keyed
  refine ⟨?_, text, _, written, reads, ?_⟩
  · rw [losesNothing_iff keyed single]
    decide
  · rw [shows_iff single]
    decide

end File

end ChefDsl.Proofs.RoleBuilding
