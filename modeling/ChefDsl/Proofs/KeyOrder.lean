import ChefDsl.Proofs.CanonicalEntities
import ChefDsl.Proofs.FieldDependence
import ChefDsl.Proofs.ValueEquality
import ChefDsl.Source.File

/-! The order of keys in a document. It shows in the order of the entity's own maps and in which of several faults is
reported, and nowhere else. The order of the fields themselves does not show at all. -/

namespace ChefDsl.Proofs.KeyOrder
open Document DocumentFields FieldDependence CanonicalValues CanonicalEntities UniqueKeys ValueEquality Nesting Results

/-- Two documents that differ at most in the order of the entries of their objects, at any depth. -/
inductive Reordered : Json → Json → Prop where
  | null : Reordered .null .null
  | bool (value : Bool) : Reordered (.bool value) (.bool value)
  | number (value : Json.Number) : Reordered (.number value) (.number value)
  | string (text : String) : Reordered (.string text) (.string text)
  | array {items others} (each : List.Forall₂ Reordered items others) : Reordered (.array items) (.array others)
  | object {entries middle others : List (String × Json)} (keys : entries.map Prod.fst = middle.map Prod.fst)
    (values : List.Forall₂ Reordered (entries.map Prod.snd) (middle.map Prod.snd)) (order : middle.Perm others) :
    Reordered (.object entries) (.object others)

private theorem reordered_object {entries others : Entries Json} :
    Reordered (.object entries) (.object others) ↔ Corresponds Reordered entries others := by
  constructor
  · intro reordered
    cases reordered with
    | object keys values order => exact ⟨_, forall₂_entries.mpr ⟨keys, values⟩, order⟩
  · rintro ⟨middle, each, order⟩
    obtain ⟨keys, values⟩ := forall₂_entries.mp each
    exact .object keys values order

private theorem reordered_self (document : Json) : Reordered document document := by
  induction document with
  | null => exact .null
  | bool value => exact .bool value
  | number value => exact .number value
  | string text => exact .string text
  | array items ih => exact .array (List.forall₂_same.mpr ih)
  | object entries ih =>
    exact reordered_object.mpr ⟨entries, List.forall₂_same.mpr fun entry member => ⟨rfl, ih entry member⟩, .refl _⟩

section Values

private theorem equal_ofNumber (number : Json.Number) :
    (Value.ofNumber number).equal (Value.ofNumber number) = true := by
  cases number with
  | natural n =>
    rw [Value.ofNumber]
    rcases ofNatural_cases n with ⟨m, _, signed⟩ | ⟨_, unsigned⟩
    · simp [signed, Value.equal]
    · simp [unsigned, Value.equal]
  | negative n below => simp [Value.ofNumber, Value.equal]
  | float x finite => rw [Value.ofNumber, Value.equal, equal_finite finite]

/-- Hashes are compared without the order of their keys, and no document holds a number that differs from itself. -/
theorem equal_ofJson {document other : Json} (keyed : KeyedJson document) (reordered : Reordered document other) :
    (Value.ofJson document).equal (Value.ofJson other) = true := by
  induction document generalizing other with
  | null =>
    cases reordered
    rfl
  | bool value =>
    cases reordered
    simp [Value.ofJson, Value.equal]
  | number value =>
    cases reordered
    exact equal_ofNumber value
  | string text =>
    cases reordered
    simp [Value.ofJson, Value.equal]
  | array items ih =>
    cases reordered with
    | array each =>
      rw [Value.ofJson, Value.ofJson, equal_array, ofItems_eq, ofItems_eq, List.forall₂_map_left_iff,
        List.forall₂_map_right_iff]
      apply forall₂_imp_of_mem each
      intro item member twin related
      exact ih item member (keyedJson_array.mp keyed item member) related
  | object entries ih =>
    cases reordered with
    | object keys values order =>
      obtain ⟨unique, members⟩ := keyedJson_object.mp keyed
      have converted : Entries.Unique (entries.map fun entry => (entry.1, Value.ofJson entry.2)) := by
        rwa [Entries.Unique, List.map_map]
      rw [Value.ofJson, Value.ofJson, equal_hash, ofEntries_eq, ofEntries_eq]
      apply agree_of_corresponds converted
      apply (reordered_object.mp (.object keys values order)).map
      intro entry member twin related
      exact ih entry member (members entry member) related

end Values

private theorem mapM_eq_of_forall₂ {α β : Type} {step : α → Except Error β} {items others : List α}
    (each : List.Forall₂ (fun item other => step item = step other) items others) :
    items.mapM step = others.mapM step := by
  induction each with
  | nil => rfl
  | cons same _ ih => rw [List.mapM_cons, List.mapM_cons, same, ih]

section Readers
variable {entries others : Entries Json} (keyed : KeyedJson (.object entries))
  (corresponds : Corresponds Reordered entries others) (kind : EntityKind) (field : String)
include keyed corresponds

/-- A field is looked up by its name, so it is found wherever it stands. -/
theorem field?_reordered :
    Json.field? entries field = none ∧ Json.field? others field = none ∨
      ∃ value twin, Json.field? entries field = some value ∧ Json.field? others field = some twin ∧
        Reordered value twin := by
  have found := corresponds.lookup (keyedJson_object.mp keyed).1 field
  unfold Json.field?
  -- The two results have to be variables before their relation can be taken apart.
  revert found
  generalize entries.lookup field = first
  generalize others.lookup field = second
  intro found
  cases found with
  | none => exact Or.inl ⟨rfl, rfl⟩
  | some related =>
    have same := related
    cases related with
    | null => exact Or.inl ⟨rfl, rfl⟩
    | _ => exact Or.inr ⟨_, _, rfl, rfl, same⟩

private theorem kind_reordered : Document.kind entries = Document.kind others := by
  rw [Document.kind, Document.kind, marker?, marker?]
  rcases field?_reordered keyed corresponds "json_class" with ⟨missing, also⟩ | ⟨value, twin, present, also, related⟩
  · rw [missing, also]
    rcases field?_reordered keyed corresponds "chef_type" with ⟨missing, also⟩ | ⟨value, twin, present, also, related⟩
    · rw [missing, also]
    · rw [present, also]
      cases related <;> rfl
  · rw [present, also]
    cases related <;> rfl

private theorem requiredString_reordered : requiredString kind entries field = requiredString kind others field := by
  rw [requiredString, requiredString]
  rcases field?_reordered keyed corresponds field with ⟨missing, also⟩ | ⟨value, twin, present, also, related⟩
  · rw [missing, also]
  · rw [present, also]
    cases related <;> rfl

private theorem optionalString_reordered : optionalString kind entries field = optionalString kind others field := by
  rw [optionalString, optionalString]
  rcases field?_reordered keyed corresponds field with ⟨missing, also⟩ | ⟨value, twin, present, also, related⟩
  · rw [missing, also]
  · rw [present, also]
    cases related <;> rfl

private theorem optionalObject_reordered :
    Alike (Corresponds Reordered) (optionalObject kind entries field) (optionalObject kind others field) := by
  rw [optionalObject, optionalObject]
  rcases field?_reordered keyed corresponds field with ⟨missing, also⟩ | ⟨value, twin, present, also, related⟩
  · rw [missing, also]
    exact .ok ⟨[], .nil, .refl []⟩
  · rw [present, also]
    cases related with
    | object keys values order => exact .ok (reordered_object.mp (.object keys values order))
    | _ => exact .error _ _

private theorem attributes_reordered :
    Alike (fun first second => (Value.hash first).equal (.hash second) = true)
      (Document.attributes kind entries field) (Document.attributes kind others field) := by
  apply (optionalObject_reordered keyed corresponds kind field).map
  intro fields twins read same
  exact equal_ofJson (keyed_optionalObject keyed read) (reordered_object.mpr same)

omit keyed corresponds in
private theorem runListItems_reordered {value twin : Json} (related : Reordered value twin) :
    runListItems field value = runListItems field twin := by
  cases related with
  | array each =>
    apply mapM_eq_of_forall₂
    refine List.Forall₂.imp ?_ each
    intro item other same
    cases same <;> rfl
  | _ => rfl

private theorem globalRunList_reordered : globalRunList entries = globalRunList others := by
  rw [globalRunList, globalRunList]
  rcases field?_reordered keyed corresponds "run_list" with ⟨missing, also⟩ | ⟨value, twin, present, also, related⟩
  · rw [missing, also, runListField, runListField]
    rcases field?_reordered keyed corresponds "recipes" with ⟨missing, also⟩ | ⟨value, twin, present, also, related⟩
    · rw [missing, also]
    · rw [present, also]
      exact runListItems_reordered "recipes" related
  · rw [present, also]
    exact runListItems_reordered "run_list" related

omit keyed corresponds in
/-- What is read entry by entry stays in the order of the entries. -/
theorem mapM_reordered {β : Type} {step : String × Json → Except Error β} {fields twins : Entries Json}
    (same : ∀ key value twin, Reordered value twin → step (key, value) = step (key, twin))
    (corresponds : Corresponds Reordered fields twins) : Alike List.Perm (fields.mapM step) (twins.mapM step) := by
  obtain ⟨middle, each, order⟩ := corresponds
  have aligned : fields.mapM step = middle.mapM step := by
    apply mapM_eq_of_forall₂
    refine List.Forall₂.imp ?_ each
    rintro ⟨key, value⟩ ⟨other, twin⟩ ⟨rfl, related⟩
    exact same key value twin related
  rw [aligned]
  exact alike_mapM_perm step order

private theorem ownRunLists_reordered : Alike List.Perm (ownRunLists entries) (ownRunLists others) := by
  refine (optionalObject_reordered keyed corresponds _ "env_run_lists").bind fun fields twins _ same => ?_
  refine mapM_reordered (fun key value twin related => ?_) same
  rw [runListItems_reordered _ related]

private theorem cookbookVersions_reordered : Alike List.Perm (cookbookVersions entries) (cookbookVersions others) := by
  refine (optionalObject_reordered keyed corresponds _ "cookbook_versions").bind fun fields twins _ same => ?_
  refine mapM_reordered (fun key value twin related => ?_) same
  cases related <;> rfl

end Readers

section Entities
variable {entries others : Entries Json}

private theorem unique_ownRunLists (keyed : KeyedJson (.object entries)) {own : Entries RunList}
    (read : ownRunLists entries = .ok own) : own.Unique := by
  simp only [ownRunLists, bind_eq_ok] at read
  obtain ⟨fields, object, each⟩ := read
  refine unique_of_mapM ?_ (keyedJson_object.mp (keyed_optionalObject keyed object)).1 each
  intro entry result gives
  obtain ⟨items, _, same⟩ := bind_eq_ok.mp gives
  cases same
  rfl

/-- The list of the default environment is the document's own wherever that stands. -/
theorem resolveRunLists_perm {own twins : Entries RunList} (unique : own.Unique) (order : own.Perm twins)
    (globalList : RunList) : (resolveRunLists globalList own).Perm (resolveRunLists globalList twins) := by
  have also : twins.Unique := (order.map Prod.fst).nodup_iff.mp unique
  apply perm_of_lookup (unique_resolveRunLists globalList own) (unique_resolveRunLists globalList twins)
  intro key
  rw [resolveRunLists, resolveRunLists, lookup_putAll _ unique, lookup_putAll _ also, lookup_perm unique order]

variable (keyed : KeyedJson (.object entries)) (corresponds : Corresponds Reordered entries others)
include keyed corresponds

private theorem role_reordered :
    Alike (fun role twin => role.equal twin = true) (Document.role entries) (Document.role others) := by
  rw [Document.role, Document.role, globalRunList_reordered keyed corresponds,
    requiredString_reordered keyed corresponds, optionalString_reordered keyed corresponds]
  refine Alike.after _ fun globalList => ?_
  refine (ownRunLists_reordered keyed corresponds).bind fun own twins read order => ?_
  refine Alike.after _ fun name => ?_
  refine Alike.after _ fun description => ?_
  refine (attributes_reordered keyed corresponds _ _).bind fun defaults _ _ equalDefaults => ?_
  refine (attributes_reordered keyed corresponds _ _).bind fun overrides _ _ equalOverrides => ?_
  have unique := unique_resolveRunLists globalList own
  have resolved := resolveRunLists_perm (unique_ownRunLists keyed read) order globalList
  have lists := agree_of_perm (fun items : RunList => beq_self_eq_true items) unique resolved
  refine .ok ?_
  simp only [Role.equal, lookup_perm unique resolved, equalDefaults, equalOverrides, lists, beq_self_eq_true,
    Bool.and_self]

private theorem environment_reordered :
    Alike (fun environment twin => environment.equal twin = true) (Document.environment entries)
      (Document.environment others) := by
  rw [Document.environment, Document.environment, requiredString_reordered keyed corresponds,
    optionalString_reordered keyed corresponds]
  refine (cookbookVersions_reordered keyed corresponds).bind fun versions twins read order => ?_
  refine Alike.after _ fun name => ?_
  refine Alike.after _ fun description => ?_
  refine (attributes_reordered keyed corresponds _ _).bind fun defaults _ _ equalDefaults => ?_
  refine (attributes_reordered keyed corresponds _ _).bind fun overrides _ _ equalOverrides => ?_
  have cookbooks := agree_of_perm (fun constraint : String => beq_self_eq_true constraint)
    (unique_cookbookVersions keyed read) order
  refine .ok ?_
  simp only [Environment.equal, equalDefaults, equalOverrides, cookbooks, beq_self_eq_true, Bool.and_self]

end Entities

private theorem alike_load {document other : Json} (keyed : KeyedJson document) (reordered : Reordered document other) :
    Alike (fun entity twin => entity.equal twin = true) (load document) (load other) := by
  cases reordered with
  | @object entries _ others keys values order =>
    have corresponds := reordered_object.mp (.object keys values order)
    have kinds := kind_reordered keyed corresponds
    cases found : Document.kind entries with
    | error error =>
      rw [load_of_unmarked found, load_of_unmarked (kinds ▸ found)]
      exact .error error error
    | ok kind =>
      have marked := kind_eq_ok.mp found
      have also := kind_eq_ok.mp (kinds ▸ found)
      cases kind with
      | role =>
        rw [load_of_role marked, load_of_role also]
        exact (role_reordered keyed corresponds).map fun role twin _ equal => equal
      | environment =>
        rw [load_of_environment marked, load_of_environment also]
        exact (environment_reordered keyed corresponds).map fun environment twin _ equal => equal
  | _ => exact .error _ _

/-- Documents that differ in the order of keys are both refused, or both loaded to equal entities. If only the fields
themselves stand in another order, the results are the same, and so are the texts that are written for them. The keys
of every object in a parsed document are different. -/
theorem load_reordered :
    (∀ document other, KeyedJson document → Reordered document other →
      Alike (fun entity twin => entity.equal twin = true) (load document) (load other)) ∧
    ∀ entries others, Entries.Unique entries → entries.Perm others →
      load (.object entries) = load (.object others) ∧
        (load (.object entries) >>= Entity.source) = (load (.object others) >>= Entity.source) := by
  refine ⟨fun document other keyed reordered => alike_load keyed reordered, ?_⟩
  intro entries others unique order
  have same : load (.object entries) = load (.object others) := by
    apply load_congr
    intro field _ value
    rw [Holds, Holds, lookup_perm unique order]
  exact ⟨same, congrArg (· >>= Entity.source) same⟩

/-- A role whose own run list for the default environment does not come first. -/
def scattered : Entries Json :=
  [("env_run_lists", .object [("prod", .array []), ("_default", .array [.string "base"])]),
    ("default_attributes", .object [("b", .object [("y", .null), ("x", .bool true)]), ("a", .array [])]),
    ("name", .string "web"), ("chef_type", .string "role")]

def gathered : Entries Json :=
  [("chef_type", .string "role"), ("name", .string "web"),
    ("default_attributes", .object [("a", .array []), ("b", .object [("x", .bool true), ("y", .null)])]),
    ("env_run_lists", .object [("_default", .array [.string "base"]), ("prod", .array [])])]

theorem load_reordered_scattered :
    KeyedJson (.object scattered) ∧ Reordered (.object scattered) (.object gathered) ∧
      Alike (fun entity twin => entity.equal twin = true) (load (.object scattered)) (load (.object gathered)) ∧
      Entries.Unique scattered ∧ scattered.Perm scattered.reverse ∧
      load (.object scattered) = load (.object scattered.reverse) ∧
      ∃ entity, load (.object scattered) = .ok entity := by
  have keyed : KeyedJson (.object scattered) := (by decide : Keyed (Value.ofJson (.object scattered)))
  have unique : Entries.Unique scattered := by decide
  have swapped {first second : String × Json} : Reordered (.object [first, second]) (.object [second, first]) :=
    reordered_object.mpr ⟨_, List.forall₂_same.mpr fun entry _ => ⟨rfl, reordered_self entry.2⟩, .swap second first []⟩
  have nested : Reordered (.object [("b", .object [("y", .null), ("x", .bool true)]), ("a", .array [])])
      (.object [("a", .array []), ("b", .object [("x", .bool true), ("y", .null)])]) :=
    reordered_object.mpr ⟨[("b", .object [("x", .bool true), ("y", .null)]), ("a", .array [])],
      .cons ⟨rfl, swapped⟩ (.cons ⟨rfl, reordered_self _⟩ .nil), .swap _ _ []⟩
  have reordered : Reordered (.object scattered) (.object gathered) :=
    reordered_object.mpr ⟨gathered.reverse, .cons ⟨rfl, swapped⟩ (.cons ⟨rfl, nested⟩
      (.cons ⟨rfl, reordered_self _⟩ (.cons ⟨rfl, reordered_self _⟩ .nil))), List.reverse_perm gathered⟩
  have order : scattered.Perm scattered.reverse := (List.reverse_perm scattered).symm
  exact ⟨keyed, reordered, load_reordered.1 _ _ keyed reordered, unique, order,
    (load_reordered.2 scattered scattered.reverse unique order).1, _, rfl⟩

end ChefDsl.Proofs.KeyOrder
