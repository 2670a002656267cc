import ChefDsl.Proofs.DocumentFields

/-! What loading a document depends on. Each reader looks at one field, and the marker decides which readers are used,
so documents that agree on the fields that are read are loaded alike. All other fields may change in any way. -/

namespace ChefDsl.Proofs.FieldDependence
open Document DocumentFields

/-- The fields that a document is read from. A null field is not read but passed over like a missing one. -/
inductive Reads (entries : Entries Json) : String → Prop where
  | jsonClass : Reads entries "json_class"
  | chefType (classless : Absent entries "json_class") : Reads entries "chef_type"
  | common {field} (member : field ∈ ["name", "description", "default_attributes", "override_attributes"]) :
    Reads entries field
  | runList (marked : Marked entries .role) : Reads entries "run_list"
  | recipes (marked : Marked entries .role) (absent : Absent entries "run_list") : Reads entries "recipes"
  | envRunLists (marked : Marked entries .role) : Reads entries "env_run_lists"
  | cookbookVersions (marked : Marked entries .environment) : Reads entries "cookbook_versions"

/-- All fields that any document is read from. -/
def knownFields : List String :=
  ["json_class", "chef_type", "name", "description", "default_attributes", "override_attributes", "run_list", "recipes",
    "env_run_lists", "cookbook_versions"]

/-- The fields that a document may hold without being read from them. -/
inductive Ignored (entries : Entries Json) : String → Prop where
  | unknown {field} (other : field ∉ knownFields) : Ignored entries field
  | chefType {value} (jsonClass : Holds entries "json_class" value) : Ignored entries "chef_type"
  | recipes {value} (runList : Holds entries "run_list" value) : Ignored entries "recipes"
  | ofRoles {field} (marked : Marked entries .environment) (member : field ∈ ["run_list", "recipes", "env_run_lists"]) :
    Ignored entries field
  | ofEnvironments (marked : Marked entries .role) : Ignored entries "cookbook_versions"

/-- The documents differ in some fields at most. These may be added, removed, changed or moved, and all other fields
stay in their order. -/
def SameApartFrom (fields : List String) (first second : Entries Json) : Prop :=
  first.filter (fun entry => entry.1 ∉ fields) = second.filter fun entry => entry.1 ∉ fields

variable {first second entries : Entries Json} {field : String}

section Readers
variable (same : Json.field? first field = Json.field? second field) (kind : EntityKind)
include same

private theorem requiredString_congr : requiredString kind first field = requiredString kind second field := by
  rw [requiredString, requiredString, same]

private theorem optionalString_congr : optionalString kind first field = optionalString kind second field := by
  rw [optionalString, optionalString, same]

private theorem optionalObject_congr : optionalObject kind first field = optionalObject kind second field := by
  rw [optionalObject, optionalObject, same]

private theorem attributes_congr : Document.attributes kind first field = Document.attributes kind second field := by
  rw [Document.attributes, Document.attributes, optionalObject_congr same kind]

end Readers

private theorem kind_congr (jsonClass : Agree first second "json_class")
    (chefType : Absent first "json_class" → Agree first second "chef_type") :
    Document.kind first = Document.kind second := by
  rw [Document.kind, Document.kind, marker?, marker?, ← agree_iff.mp jsonClass]
  cases found : Json.field? first "json_class" with
  | some value => rfl
  | none => rw [agree_iff.mp (chefType (field?_eq_none.mp found))]

private theorem globalRunList_congr (runList : Agree first second "run_list")
    (recipes : Absent first "run_list" → Agree first second "recipes") :
    globalRunList first = globalRunList second := by
  rw [globalRunList, globalRunList, ← agree_iff.mp runList]
  cases found : Json.field? first "run_list" with
  | some value => rfl
  | none => rw [runListField, runListField, agree_iff.mp (recipes (field?_eq_none.mp found))]

section Documents
variable (agree : ∀ field, Reads first field → Agree first second field)
include agree

private theorem role_congr (marked : Marked first .role) : Document.role first = Document.role second := by
  have globalList := globalRunList_congr (agree _ (.runList marked)) fun absent => agree _ (.recipes marked absent)
  have common (field : String)
      (member : field ∈ ["name", "description", "default_attributes", "override_attributes"]) :=
    agree_iff.mp (agree field (.common member))
  have lists := optionalObject_congr (agree_iff.mp (agree _ (.envRunLists marked))) .role
  have name := requiredString_congr (common "name" (by simp)) .role
  have description := optionalString_congr (common "description" (by simp)) .role
  have defaults := attributes_congr (common "default_attributes" (by simp)) .role
  have overrides := attributes_congr (common "override_attributes" (by simp)) .role
  simp only [Document.role, ownRunLists, globalList, lists, name, description, defaults, overrides]

private theorem environment_congr (marked : Marked first .environment) :
    Document.environment first = Document.environment second := by
  have common (field : String)
      (member : field ∈ ["name", "description", "default_attributes", "override_attributes"]) :=
    agree_iff.mp (agree field (.common member))
  have versions := optionalObject_congr (agree_iff.mp (agree _ (.cookbookVersions marked))) .environment
  have name := requiredString_congr (common "name" (by simp)) .environment
  have description := optionalString_congr (common "description" (by simp)) .environment
  have defaults := attributes_congr (common "default_attributes" (by simp)) .environment
  have overrides := attributes_congr (common "override_attributes" (by simp)) .environment
  simp only [Document.environment, cookbookVersions, versions, name, description, defaults, overrides]

theorem load_congr : load (.object first) = load (.object second) := by
  have kinds := kind_congr (agree _ .jsonClass) fun classless => agree _ (.chefType classless)
  cases found : Document.kind first with
  | error error => rw [load_of_unmarked found, load_of_unmarked (kinds ▸ found)]
  | ok kind =>
    have marked := kind_eq_ok.mp found
    have also := kind_eq_ok.mp (kinds ▸ found)
    cases kind with
    | role => rw [load_of_role marked, load_of_role also, role_congr agree marked]
    | environment => rw [load_of_environment marked, load_of_environment also, environment_congr agree marked]

end Documents

section Changes

private theorem reads_iff : Reads entries field ↔
    field = "json_class" ∨ field = "chef_type" ∧ Absent entries "json_class" ∨
      field ∈ ["name", "description", "default_attributes", "override_attributes"] ∨
      Marked entries .role ∧
        (field = "run_list" ∨ field = "recipes" ∧ Absent entries "run_list" ∨ field = "env_run_lists") ∨
      Marked entries .environment ∧ field = "cookbook_versions" := by
  constructor
  · intro reads
    cases reads with
    | jsonClass => exact Or.inl rfl
    | chefType classless => exact Or.inr (Or.inl ⟨rfl, classless⟩)
    | common member => exact Or.inr (Or.inr (Or.inl member))
    | runList marked => exact Or.inr (Or.inr (Or.inr (Or.inl ⟨marked, Or.inl rfl⟩)))
    | recipes marked absent => exact Or.inr (Or.inr (Or.inr (Or.inl ⟨marked, Or.inr (Or.inl ⟨rfl, absent⟩)⟩)))
    | envRunLists marked => exact Or.inr (Or.inr (Or.inr (Or.inl ⟨marked, Or.inr (Or.inr rfl)⟩)))
    | cookbookVersions marked => exact Or.inr (Or.inr (Or.inr (Or.inr ⟨marked, rfl⟩)))
  · rintro (rfl | ⟨rfl, classless⟩ | member | ⟨marked, rfl | ⟨rfl, absent⟩ | rfl⟩ | ⟨marked, rfl⟩)
    · exact .jsonClass
    · exact .chefType classless
    · exact .common member
    · exact .runList marked
    · exact .recipes marked absent
    · exact .envRunLists marked
    · exact .cookbookVersions marked

private theorem mem_knownFields (reads : Reads entries field) : field ∈ knownFields := by
  cases reads with
  | common member =>
    simp only [List.mem_cons, List.not_mem_nil, or_false] at member
    rcases member with rfl | rfl | rfl | rfl <;> simp [knownFields]
  | _ => simp [knownFields]

/-- No field is both read and ignored. -/
theorem Ignored.not_reads (ignored : Ignored entries field) : ¬ Reads entries field := by
  cases ignored with
  | unknown other => exact fun reads => other (mem_knownFields reads)
  | chefType present => simp [reads_iff, present.not_absent]
  | recipes present => simp [reads_iff, present.not_absent]
  | ofRoles marked member =>
    have other : ¬ Marked entries .role := fun also => by cases marked.unique also
    simp only [List.mem_cons, List.not_mem_nil, or_false] at member
    rcases member with rfl | rfl | rfl <;> simp [reads_iff, other]
  | ofEnvironments marked =>
    have other : ¬ Marked entries .environment := fun also => by cases marked.unique also
    simp [reads_iff, other]

private theorem lookup_filter {fields : List String} (kept : field ∉ fields) (entries : Entries Json) :
    (entries.filter fun entry => entry.1 ∉ fields).lookup field = entries.lookup field := by
  induction entries with
  | nil => rfl
  | cons entry rest ih =>
    obtain ⟨name, value⟩ := entry
    by_cases dropped : name ∈ fields
    · have other : (field == name) = false := by
        rw [beq_eq_false_iff_ne]
        rintro rfl
        exact kept dropped
      simpa [dropped, List.lookup_cons, other] using ih
    · simp only [decide_not] at ih
      simp [dropped, List.lookup_cons, ih]

private theorem agree_of_sameApartFrom {fields : List String} (same : SameApartFrom fields first second)
    (kept : field ∉ fields) : Agree first second field := by
  intro value
  rw [Holds, Holds, ← lookup_filter kept first, same, lookup_filter kept second]

/-- Documents that agree on the fields that one of them is read from are loaded alike. So nothing comes of changes to
any of the fields that are ignored. -/
theorem load_depends :
    (∀ first second, (∀ field, Reads first field → Agree first second field) →
      load (.object first) = load (.object second)) ∧
    ∀ first second fields, (∀ field ∈ fields, Ignored first field) → SameApartFrom fields first second →
      load (.object first) = load (.object second) := by
  refine ⟨fun first second agree => load_congr agree, ?_⟩
  intro first second fields ignored same
  apply load_congr
  intro field reads
  apply agree_of_sameApartFrom same
  intro member
  exact (ignored field member).not_reads reads

/-- A role with a type, an old run list and other fields that do not count. -/
def crowded : Entries Json :=
  [("owner", .bool true), ("chef_type", .string "environment"), ("json_class", .string "Chef::Role"),
    ("name", .string "web"), ("description", .null), ("recipes", .bool false), ("run_list", .array [.string "base"]),
    ("cookbook_versions", .array [])]

def tidied : Entries Json :=
  [("json_class", .string "Chef::Role"), ("name", .string "web"), ("description", .null),
    ("recipes", .array []), ("run_list", .array [.string "base"])]

def reordered : Entries Json :=
  [("name", .string "web"), ("run_list", .array [.string "base"]), ("env_run_lists", .null),
    ("json_class", .string "Chef::Role")]

theorem load_depends_crowded :
    (∀ field, Reads crowded field → Agree crowded reordered field) ∧
      (∀ field ∈ ["owner", "chef_type", "recipes", "cookbook_versions"], Ignored crowded field) ∧
      SameApartFrom ["owner", "chef_type", "recipes", "cookbook_versions"] crowded tidied ∧
      load (.object crowded) = load (.object reordered) ∧ load (.object crowded) = load (.object tidied) := by
  have jsonClass : Holds crowded "json_class" (.string "Chef::Role") := field?_eq_some.mp rfl
  have runList : Holds crowded "run_list" (.array [.string "base"]) := field?_eq_some.mp rfl
  have marked : Marked crowded .role := .roleClass jsonClass
  have agree : ∀ field, Reads crowded field → Agree crowded reordered field := by
    intro field reads
    rw [agree_iff]
    cases reads with
    | jsonClass => rfl
    | chefType classless => exact absurd classless jsonClass.not_absent
    | common member =>
      simp only [List.mem_cons, List.not_mem_nil, or_false] at member
      rcases member with rfl | rfl | rfl | rfl <;> rfl
    | runList => rfl
    | recipes _ absent => exact absurd absent runList.not_absent
    | envRunLists => rfl
    | cookbookVersions also => cases marked.unique also
  have ignored : ∀ field ∈ ["owner", "chef_type", "recipes", "cookbook_versions"], Ignored crowded field := by
    simp only [List.mem_cons, List.not_mem_nil, or_false]
    rintro field (rfl | rfl | rfl | rfl)
    · exact .unknown (by simp [knownFields])
    · exact .chefType jsonClass
    · exact .recipes runList
    · exact .ofEnvironments marked
  have same : SameApartFrom ["owner", "chef_type", "recipes", "cookbook_versions"] crowded tidied := by
    simp [SameApartFrom, crowded, tidied]
  exact ⟨agree, ignored, same, load_depends.1 crowded reordered agree, load_depends.2 crowded tidied _ ignored same⟩

end Changes

end ChefDsl.Proofs.FieldDependence
