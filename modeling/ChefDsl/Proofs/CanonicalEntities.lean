import ChefDsl.Document
import ChefDsl.Proofs.CanonicalValues
import ChefDsl.Proofs.Results
import ChefDsl.Proofs.RunListItems

/-! The entities that documents describe. The global run list of a role stands first among its run lists, under the
default environment, all items are valid and all attributes canonical. Every entity of this shape has a document that
describes it, and no other entity has one. -/

namespace ChefDsl.Proofs.CanonicalEntities
open Document RunListItems UniqueKeys CanonicalValues Nesting Results

structure CanonicalRole (role : Role) : Prop where
  defaultAttributes : Canonical (.hash role.defaultAttributes)
  overrideAttributes : Canonical (.hash role.overrideAttributes)
  defaultList : role.envRunLists.head? = some ("_default", role.runList)
  runList : ∀ item ∈ role.runList, Valid item
  envRunLists : ∀ entry ∈ role.envRunLists, ∀ item ∈ entry.2, Valid item

structure CanonicalEnvironment (environment : Environment) : Prop where
  defaultAttributes : Canonical (.hash environment.defaultAttributes)
  overrideAttributes : Canonical (.hash environment.overrideAttributes)

def CanonicalEntity : Entity → Prop
  | .role role => CanonicalRole role
  | .environment environment => CanonicalEnvironment environment

/-- A role with one run list has its global one there. -/
theorem single_runList {role : Role} (canonical : CanonicalRole role) (single : role.envRunLists.length ≤ 1) :
    role.envRunLists = [("_default", role.runList)] := by
  obtain ⟨others, split⟩ := List.head?_eq_some_iff.mp canonical.defaultList
  rw [split, List.length_cons] at single
  rw [split, List.length_eq_zero_iff.mp (by omega : others.length = 0)]

section Loading
variable {kind : EntityKind} {entries : Entries Json} {field : String}

private theorem mem_of_field? {value : Json} (present : Json.field? entries field = some value) :
    (field, value) ∈ entries := by
  have found : entries.lookup field = some value := by
    unfold Json.field? at present
    split at present
    · cases present
    · cases present
    · next _ found =>
      cases present
      exact found
  obtain ⟨before, after, split, _⟩ := List.lookup_eq_some_iff.mp found
  simp [split]

theorem attributes_eq_ok {attributes : Attributes} (read : Document.attributes kind entries field = .ok attributes) :
    ∃ fields, optionalObject kind entries field = .ok fields ∧ attributes = Value.ofEntries fields := by
  unfold Document.attributes at read
  cases object : optionalObject kind entries field with
  | error error => simp [object, Except.map] at read
  | ok fields =>
    simp only [object, Except.map, Except.ok.injEq] at read
    exact ⟨fields, rfl, read.symm⟩

theorem keyed_optionalObject (keyed : KeyedJson (.object entries)) {fields : Entries Json}
    (read : optionalObject kind entries field = .ok fields) : KeyedJson (.object fields) := by
  unfold optionalObject at read
  split at read
  · cases read
    exact keyedJson_object.mpr ⟨List.nodup_nil, by simp⟩
  · next present =>
    cases read
    exact (keyedJson_object.mp keyed).2 _ (mem_of_field? present)
  · cases read

private theorem canonical_attributes {attributes : Attributes}
    (read : Document.attributes kind entries field = .ok attributes) : Canonical (.hash attributes) := by
  obtain ⟨fields, _, rfl⟩ := attributes_eq_ok read
  exact canonical_ofJson (.object fields)

private theorem keyed_attributes (keyed : KeyedJson (.object entries)) {attributes : Attributes}
    (read : Document.attributes kind entries field = .ok attributes) : Keyed (.hash attributes) := by
  obtain ⟨fields, object, rfl⟩ := attributes_eq_ok read
  exact keyed_optionalObject keyed object

private theorem valid_runListItems {value : Json} {items : RunList} (read : runListItems field value = .ok items) :
    ∀ item ∈ items, Valid item := by
  unfold runListItems at read
  split at read
  · intro item member
    obtain ⟨source, _, gives⟩ := exists_of_mem_mapM read item member
    split at gives
    · next text => exact valid_of_parse? (parse_eq_ok.mp gives)
    · cases gives
  · cases read

private theorem valid_globalRunList {items : RunList} (read : globalRunList entries = .ok items) :
    ∀ item ∈ items, Valid item := by
  unfold globalRunList at read
  split at read
  · exact valid_runListItems read
  · unfold runListField at read
    split at read
    · cases read
      simp
    · exact valid_runListItems read

private theorem valid_ownRunLists {own : Entries RunList} (read : ownRunLists entries = .ok own) :
    ∀ entry ∈ own, ∀ item ∈ entry.2, Valid item := by
  simp only [ownRunLists, bind_eq_ok] at read
  obtain ⟨lists, _, each⟩ := read
  intro entry member
  obtain ⟨source, _, gives⟩ := exists_of_mem_mapM each entry member
  obtain ⟨items, found, same⟩ := bind_eq_ok.mp gives
  cases same
  exact valid_runListItems found

theorem canonical_role {role : Role} (read : Document.role entries = .ok role) : CanonicalRole role := by
  simp only [Document.role, bind_eq_ok, pure_eq_ok, Except.ok.injEq] at read
  obtain ⟨globalList, globalRead, own, ownRead, name, _, description, _, defaults, defaultsRead, overrides,
    overridesRead, rfl⟩ := read
  obtain ⟨last, others, resolved⟩ := putAll_first defaultEnvironment globalList [] own
  have valid : ∀ entry ∈ resolveRunLists globalList own, ∀ item ∈ entry.2, Valid item := by
    intro entry member
    rcases mem_putAll member with first | given
    · rw [List.mem_singleton.mp first]
      exact valid_globalRunList globalRead
    · exact valid_ownRunLists ownRead entry given
  have first : ((resolveRunLists globalList own).lookup defaultEnvironment).getD [] = last := by
    rw [resolveRunLists, resolved]
    simp
  refine ⟨canonical_attributes defaultsRead, canonical_attributes overridesRead, ?_, ?_, valid⟩
  · simp only [first]
    rw [resolveRunLists, resolved]
    rfl
  · simp only [first]
    exact valid (defaultEnvironment, last) (by rw [resolveRunLists, resolved]; simp)

theorem unique_resolveRunLists (globalList : RunList) (own : Entries RunList) :
    (resolveRunLists globalList own).Unique := by
  have single : Entries.Unique [(defaultEnvironment, globalList)] := by simp [Entries.Unique]
  exact single.putAll own

private theorem keyed_role (keyed : KeyedJson (.object entries)) {role : Role}
    (read : Document.role entries = .ok role) :
    KeyedRole role := by
  simp only [Document.role, bind_eq_ok, pure_eq_ok, Except.ok.injEq] at read
  obtain ⟨globalList, _, own, _, name, _, description, _, defaults, defaultsRead, overrides, overridesRead, rfl⟩ := read
  exact ⟨keyed_attributes keyed defaultsRead, keyed_attributes keyed overridesRead,
    unique_resolveRunLists globalList own⟩

private theorem canonical_environment {environment : Environment}
    (read : Document.environment entries = .ok environment) :
    CanonicalEnvironment environment := by
  simp only [Document.environment, bind_eq_ok, pure_eq_ok, Except.ok.injEq] at read
  obtain ⟨versions, _, name, _, description, _, defaults, defaultsRead, overrides, overridesRead, rfl⟩ := read
  exact ⟨canonical_attributes defaultsRead, canonical_attributes overridesRead⟩

/-- Entries that are read one by one keep their keys. -/
theorem unique_of_mapM {α : Type} {step : String × Json → Except Error (String × α)} {fields : Entries Json}
    {results : Entries α} (kept : ∀ entry result, step entry = .ok result → result.1 = entry.1)
    (unique : fields.Unique) (read : fields.mapM step = .ok results) : results.Unique := by
  rw [Entries.Unique, map_eq_of_mapM kept read]
  exact unique

theorem unique_cookbookVersions (keyed : KeyedJson (.object entries)) {versions : Entries String}
    (read : cookbookVersions entries = .ok versions) : versions.Unique := by
  simp only [cookbookVersions, bind_eq_ok] at read
  obtain ⟨fields, object, each⟩ := read
  refine unique_of_mapM ?_ (keyedJson_object.mp (keyed_optionalObject keyed object)).1 each
  intro entry result gives
  split at gives
  · cases gives
    rfl
  · cases gives

private theorem keyed_environment (keyed : KeyedJson (.object entries)) {environment : Environment}
    (read : Document.environment entries = .ok environment) : KeyedEnvironment environment := by
  simp only [Document.environment, bind_eq_ok, pure_eq_ok, Except.ok.injEq] at read
  obtain ⟨versions, cookbooks, name, _, description, _, defaults, defaultsRead, overrides, overridesRead, rfl⟩ := read
  exact ⟨unique_cookbookVersions keyed cookbooks, keyed_attributes keyed defaultsRead,
    keyed_attributes keyed overridesRead⟩

/-- What is loaded is read as a role or as an environment from the entries of an object. -/
theorem load_eq_ok {document : Json} {entity : Entity} (loaded : load document = .ok entity) :
    ∃ entries, document = .object entries ∧
      ((∃ role, Document.role entries = .ok role ∧ entity = .role role) ∨
        ∃ environment, Document.environment entries = .ok environment ∧ entity = .environment environment) := by
  cases document with
  | object entries =>
    simp only [load, bind_eq_ok] at loaded
    obtain ⟨kind, _, rest⟩ := loaded
    cases kind with
    | role =>
      obtain ⟨role, read, same⟩ := bind_eq_ok.mp rest
      cases same
      exact ⟨entries, rfl, Or.inl ⟨role, read, rfl⟩⟩
    | environment =>
      obtain ⟨environment, read, same⟩ := bind_eq_ok.mp rest
      cases same
      exact ⟨entries, rfl, Or.inr ⟨environment, read, rfl⟩⟩
  | _ => cases loaded

theorem canonical_of_load {document : Json} {entity : Entity} (loaded : load document = .ok entity) :
    CanonicalEntity entity := by
  obtain ⟨entries, rfl, ⟨role, read, rfl⟩ | ⟨environment, read, rfl⟩⟩ := load_eq_ok loaded
  · exact canonical_role read
  · exact canonical_environment read

theorem keyed_of_load {document : Json} {entity : Entity} (keyed : KeyedJson document)
    (loaded : load document = .ok entity) : KeyedEntity entity := by
  obtain ⟨entries, rfl, ⟨role, read, rfl⟩ | ⟨environment, read, rfl⟩⟩ := load_eq_ok loaded
  · exact keyed_role keyed read
  · exact keyed_environment keyed read

end Loading

section Describing

def itemsJson (items : RunList) : Json := .array (items.map fun item => .string item.toString)

def roleEntries (role : Role) : Entries Json :=
  [("name", .string role.name), ("chef_type", .string "role"), ("description", .string role.description),
    ("default_attributes", .object (jsonEntries role.defaultAttributes)),
    ("override_attributes", .object (jsonEntries role.overrideAttributes)),
    ("run_list", itemsJson role.runList),
    ("env_run_lists", .object (role.envRunLists.map fun entry => (entry.1, itemsJson entry.2)))]

def environmentEntries (environment : Environment) : Entries Json :=
  [("name", .string environment.name), ("chef_type", .string "environment"),
    ("description", .string environment.description),
    ("cookbook_versions", .object (environment.cookbookVersions.map fun entry => (entry.1, .string entry.2))),
    ("default_attributes", .object (jsonEntries environment.defaultAttributes)),
    ("override_attributes", .object (jsonEntries environment.overrideAttributes))]

/-- The document that is written for an entity. -/
def documentOf : Entity → Json
  | .role role => .object (roleEntries role)
  | .environment environment => .object (environmentEntries environment)

private theorem runListItems_itemsJson (field : String) {items : RunList} (valid : ∀ item ∈ items, Valid item) :
    runListItems field (itemsJson items) = .ok items := by
  have each : items.mapM (fun item => RunList.Item.parse item.toString) = .ok (items.map id) :=
    mapM_ok fun item member => parse_toString (valid item member)
  rw [List.map_id] at each
  simp only [runListItems, itemsJson, List.mapM_map, Function.comp_def]
  exact each

/-- A run list of its own for the default environment takes the place of the one in front. -/
theorem resolve_self {lists : Entries RunList} {items : RunList} (first : lists.head? = some ("_default", items))
    (unique : lists.Unique) : resolveRunLists items lists = lists := by
  cases lists with
  | nil => cases first
  | cons entry rest =>
    cases first
    have put : Entries.put [("_default", items)] "_default" items = [("_default", items)] := by simp [Entries.put]
    rw [resolveRunLists, Entries.putAll, List.foldl_cons, defaultEnvironment, put]
    exact putAll_fresh unique

private theorem ofEntries_jsonEntries {attributes : Attributes} (canonical : Canonical (.hash attributes)) :
    Value.ofEntries (jsonEntries attributes) = attributes := by
  have same := ofJson_jsonOf canonical
  rw [jsonOf, Value.ofJson] at same
  exact Value.hash.inj same

private theorem ownRunLists_map {entries : Entries Json} {lists : Entries RunList}
    (present : Json.field? entries "env_run_lists" =
      some (.object (lists.map fun entry => (entry.1, itemsJson entry.2))))
    (valid : ∀ entry ∈ lists, ∀ item ∈ entry.2, Valid item) : ownRunLists entries = .ok lists := by
  have each : (lists.map fun entry => (entry.1, itemsJson entry.2)).mapM (fun entry => do
      return (entry.1, ← runListItems ("env_run_lists." ++ entry.1) entry.2)) = .ok (lists.map id) := by
    rw [List.mapM_map]
    exact mapM_ok fun entry member => by
      simp [runListItems_itemsJson _ (valid entry member)]
  rw [ownRunLists, optionalObject, present]
  simpa using each

private theorem cookbookVersions_map {entries : Entries Json} {versions : Entries String}
    (present : Json.field? entries "cookbook_versions" =
      some (.object (versions.map fun entry => (entry.1, .string entry.2)))) :
    cookbookVersions entries = .ok versions := by
  rw [cookbookVersions, optionalObject, present]
  simp only [ok_bind, List.mapM_map]
  exact (mapM_ok fun entry _ => rfl).trans (congrArg _ (List.map_id versions))

private theorem attributes_jsonEntries {kind : EntityKind} {entries : Entries Json} {field : String}
    {attributes : Attributes} (present : Json.field? entries field = some (.object (jsonEntries attributes)))
    (canonical : Canonical (.hash attributes)) : Document.attributes kind entries field = .ok attributes := by
  rw [Document.attributes, optionalObject, present, Except.map, ofEntries_jsonEntries canonical]

private theorem load_role {role : Role} (canonical : CanonicalRole role) (keyed : KeyedRole role) :
    load (documentOf (.role role)) = .ok (.role role) := by
  have marked : kind (roleEntries role) = .ok .role := rfl
  have globalList : globalRunList (roleEntries role) = .ok role.runList :=
    runListItems_itemsJson "run_list" canonical.runList
  have lists : ownRunLists (roleEntries role) = .ok role.envRunLists := ownRunLists_map rfl canonical.envRunLists
  have name : requiredString .role (roleEntries role) "name" = .ok role.name := rfl
  have description : optionalString .role (roleEntries role) "description" = .ok role.description := rfl
  have defaults : Document.attributes .role (roleEntries role) "default_attributes" = .ok role.defaultAttributes :=
    attributes_jsonEntries rfl canonical.defaultAttributes
  have overrides : Document.attributes .role (roleEntries role) "override_attributes" = .ok role.overrideAttributes :=
    attributes_jsonEntries rfl canonical.overrideAttributes
  have resolved := resolve_self canonical.defaultList keyed.envRunLists
  have found : (role.envRunLists.lookup defaultEnvironment).getD [] = role.runList := by
    obtain ⟨others, split⟩ := List.head?_eq_some_iff.mp canonical.defaultList
    simp [split, defaultEnvironment]
  simp only [documentOf, load, marked, Document.role, globalList, lists, name, description, defaults, overrides,
    resolved, found, ok_bind, pure_eq_ok]

private theorem load_environment {environment : Environment} (canonical : CanonicalEnvironment environment) :
    load (documentOf (.environment environment)) = .ok (.environment environment) := by
  have marked : kind (environmentEntries environment) = .ok .environment := rfl
  have versions : cookbookVersions (environmentEntries environment) = .ok environment.cookbookVersions :=
    cookbookVersions_map rfl
  have name : requiredString .environment (environmentEntries environment) "name" = .ok environment.name := rfl
  have description : optionalString .environment (environmentEntries environment) "description" =
      .ok environment.description := rfl
  have defaults : Document.attributes .environment (environmentEntries environment) "default_attributes" =
      .ok environment.defaultAttributes := attributes_jsonEntries rfl canonical.defaultAttributes
  have overrides : Document.attributes .environment (environmentEntries environment) "override_attributes" =
      .ok environment.overrideAttributes := attributes_jsonEntries rfl canonical.overrideAttributes
  simp only [documentOf, load, marked, Document.environment, versions, name, description, defaults, overrides, ok_bind,
    pure_eq_ok]

private theorem keyed_itemsJson (items : RunList) : KeyedJson (itemsJson items) := by
  rw [itemsJson, keyedJson_array]
  exact List.forall_mem_map.mpr fun item _ => rfl

private theorem keyed_jsonEntries {attributes : Attributes} (canonical : Canonical (.hash attributes))
    (keyed : Keyed (.hash attributes)) : KeyedJson (.object (jsonEntries attributes)) := by
  rw [KeyedJson, Value.ofJson, ofEntries_jsonEntries canonical]
  exact keyed

private theorem keyed_documentOf {entity : Entity} (canonical : CanonicalEntity entity) (keyed : KeyedEntity entity) :
    KeyedJson (documentOf entity) := by
  have text (text : String) : KeyedJson (.string text) := rfl
  cases entity with
  | role role =>
    have lists : KeyedJson (.object (role.envRunLists.map fun entry => (entry.1, itemsJson entry.2))) := by
      rw [keyedJson_object, Entries.Unique, List.map_map, List.forall_mem_map]
      exact ⟨keyed.envRunLists, fun entry _ => keyed_itemsJson entry.2⟩
    rw [documentOf, keyedJson_object]
    refine ⟨by simp [Entries.Unique, roleEntries], ?_⟩
    simp [roleEntries, text, keyed_itemsJson, lists,
      keyed_jsonEntries canonical.defaultAttributes keyed.defaultAttributes,
      keyed_jsonEntries canonical.overrideAttributes keyed.overrideAttributes]
  | environment environment =>
    have versions : KeyedJson
        (.object (environment.cookbookVersions.map fun entry => (entry.1, .string entry.2))) := by
      rw [keyedJson_object, Entries.Unique, List.map_map, List.forall_mem_map]
      exact ⟨keyed.cookbookVersions, fun entry _ => text entry.2⟩
    rw [documentOf, keyedJson_object]
    refine ⟨by simp [Entries.Unique, environmentEntries], ?_⟩
    simp [environmentEntries, text, versions,
      keyed_jsonEntries canonical.defaultAttributes keyed.defaultAttributes,
      keyed_jsonEntries canonical.overrideAttributes keyed.overrideAttributes]

end Describing

/-- Loading gives canonical entities and, from documents with different keys, entities with different keys. Each of
these is loaded from the document that is written for it. -/
theorem load_canonical :
    (∀ document entity, load document = .ok entity →
      CanonicalEntity entity ∧ (KeyedJson document → KeyedEntity entity)) ∧
    ∀ entity, CanonicalEntity entity → KeyedEntity entity →
      KeyedJson (documentOf entity) ∧ load (documentOf entity) = .ok entity := by
  refine ⟨fun document entity loaded => ⟨canonical_of_load loaded, fun keyed => keyed_of_load keyed loaded⟩, ?_⟩
  intro entity canonical keyed
  refine ⟨keyed_documentOf canonical keyed, ?_⟩
  cases entity with
  | role role => exact load_role canonical keyed
  | environment environment => exact load_environment canonical

def pinnedRole : Role where
  name := "web"
  description := ""
  defaultAttributes := [("a", .array [.unsigned 0x8000000000000000, .float ⟨0x8000000000000000⟩, .integer (-1)])]
  overrideAttributes := [("b", .hash [("c", .nil), ("a", .bool true)])]
  runList := [⟨.recipe, "base", some "1.2.3"⟩, ⟨.role, "db@x", none⟩]
  envRunLists := [("_default", [⟨.recipe, "base", some "1.2.3"⟩, ⟨.role, "db@x", none⟩]), ("prod", [])]

theorem load_canonical_pinned :
    CanonicalRole pinnedRole ∧ KeyedRole pinnedRole ∧ KeyedJson (documentOf (.role pinnedRole)) ∧
      load (documentOf (.role pinnedRole)) = .ok (.role pinnedRole) := by
  have canonical : CanonicalRole pinnedRole := ⟨by decide, by decide, rfl, by decide, by decide⟩
  have keyed : KeyedRole pinnedRole := ⟨by decide, by decide, by decide⟩
  exact ⟨canonical, keyed, load_canonical.2 (.role pinnedRole) canonical keyed⟩

end ChefDsl.Proofs.CanonicalEntities
