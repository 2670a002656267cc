import ChefDsl.Proofs.Checks
import ChefDsl.Proofs.DocumentFields

/-! Which documents describe an entity, and what is reported of those that do not. A document is put to checks in a
fixed order, a list is checked member by member, and the first check that fails gives the error. -/

namespace ChefDsl.Proofs.Acceptance
open Document DocumentFields Results Checks

section Documents

def IsString (value : Json) : Prop := ∃ text, value = .string text

def IsObject (value : Json) : Prop := ∃ fields, value = .object fields

/-- An object all of whose members have a property. -/
def IsObjectOf (accepted : Json → Prop) (value : Json) : Prop :=
  ∃ fields, value = .object fields ∧ ∀ entry ∈ fields, accepted entry.2

def IsItem (value : Json) : Prop := ∃ text item, value = .string text ∧ RunList.Item.parse? text.toList = some item

def IsRunList (value : Json) : Prop := ∃ items, value = .array items ∧ ∀ item ∈ items, IsItem item

/-- The field is absent or holds what has a property. -/
def IsOptional (entries : Entries Json) (field : String) (accepted : Json → Prop) : Prop :=
  ∀ value, Holds entries field value → accepted value

structure CommonFields (entries : Entries Json) : Prop where
  name : ∃ text, Holds entries "name" (.string text)
  description : IsOptional entries "description" IsString
  defaultAttributes : IsOptional entries "default_attributes" IsObject
  overrideAttributes : IsOptional entries "override_attributes" IsObject

structure RoleFields (entries : Entries Json) : Prop extends CommonFields entries where
  runList : IsOptional entries "run_list" IsRunList
  recipes : Absent entries "run_list" → IsOptional entries "recipes" IsRunList
  envRunLists : IsOptional entries "env_run_lists" (IsObjectOf IsRunList)

structure EnvironmentFields (entries : Entries Json) : Prop extends CommonFields entries where
  cookbookVersions : IsOptional entries "cookbook_versions" (IsObjectOf IsString)

/-- The documents that describe an entity of a kind. -/
inductive Acceptable : Json → EntityKind → Prop where
  | role {entries} (marked : Marked entries .role) (fields : RoleFields entries) : Acceptable (.object entries) .role
  | environment {entries} (marked : Marked entries .environment) (fields : EnvironmentFields entries) :
    Acceptable (.object entries) .environment

end Documents

section Faults

/-- The value that is to name the kind: the class if there is one, or else the type. -/
def HoldsMarker (entries : Entries Json) (value : Json) : Prop :=
  Holds entries "json_class" value ∨ Absent entries "json_class" ∧ Holds entries "chef_type" value

inductive MarkerFault (entries : Entries Json) : Error → Prop where
  | missing (classless : Absent entries "json_class") (typeless : Absent entries "chef_type") :
    MarkerFault entries (.unsupportedEntityKind "object")
  | shape {value} (marker : HoldsMarker entries value) (other : ¬ IsString value) :
    MarkerFault entries (.unsupportedEntityKind value.kindName)
  | text {text} (marker : HoldsMarker entries (.string text)) (unknown : ∀ kind, ¬ Marked entries kind) :
    MarkerFault entries (.unsupportedEntityKind text)

section Fields
variable (kind : EntityKind) (entries : Entries Json) (field : String)

/-- What a field holds has not the shape that is expected there. -/
inductive ShapeFault (accepted : Json → Prop) (expected : Shape) : Error → Prop where
  | intro {value} (present : Holds entries field value) (other : ¬ accepted value) :
    ShapeFault accepted expected (.invalidField kind field expected)

abbrev StringFault : Error → Prop := ShapeFault kind entries field IsString .string

abbrev ObjectFault : Error → Prop := ShapeFault kind entries field IsObject .object

inductive RequiredStringFault : Error → Prop where
  | missing (absent : Absent entries field) : RequiredStringFault (.missingField kind field)
  | shape {error} (fault : StringFault kind entries field error) : RequiredStringFault error

/-- The field holds no object, or a member of its object has a fault. Members are checked in the order of the
document. -/
inductive MembersFault (fault : String × Json → Error → Prop) : Error → Prop where
  | shape {error} (other : ObjectFault kind entries field error) : MembersFault fault error
  | member {fields error} (present : Holds entries field (.object fields))
    (first : FirstFault (fields.map fault) error) : MembersFault fault error

end Fields

section RunLists
variable (field : String)

inductive ItemFault : Json → Error → Prop where
  | shape {value} (other : ¬ IsString value) : ItemFault value (.invalidField .role field .stringArray)
  | text {text} (unreadable : RunList.Item.parse? text.toList = none) :
    ItemFault (.string text) (.invalidRunListItem text)

inductive RunListFault : Json → Error → Prop where
  | shape {value} (other : ∀ items, value ≠ .array items) : RunListFault value (.invalidField .role field .stringArray)
  | item {items error} (first : FirstFault (items.map (ItemFault field)) error) : RunListFault (.array items) error

end RunLists

/-- The old field counts only where the new one is absent. -/
inductive GlobalRunListFault (entries : Entries Json) : Error → Prop where
  | runList {value error} (present : Holds entries "run_list" value) (fault : RunListFault "run_list" value error) :
    GlobalRunListFault entries error
  | recipes {value error} (absent : Absent entries "run_list") (present : Holds entries "recipes" value)
    (fault : RunListFault "recipes" value error) : GlobalRunListFault entries error

inductive CookbookFault : String × Json → Error → Prop where
  | intro {cookbook value} (other : ¬ IsString value) :
    CookbookFault (cookbook, value) (.invalidField .environment ("cookbook_versions." ++ cookbook) .string)

def commonChecks (kind : EntityKind) (entries : Entries Json) : List (Error → Prop) :=
  [RequiredStringFault kind entries "name", StringFault kind entries "description",
    ObjectFault kind entries "default_attributes", ObjectFault kind entries "override_attributes"]

def roleChecks (entries : Entries Json) : List (Error → Prop) :=
  GlobalRunListFault entries ::
    MembersFault .role entries "env_run_lists" (fun entry => RunListFault ("env_run_lists." ++ entry.1) entry.2) ::
      commonChecks .role entries

def environmentChecks (entries : Entries Json) : List (Error → Prop) :=
  MembersFault .environment entries "cookbook_versions" CookbookFault :: commonChecks .environment entries

/-- What is reported of the documents that describe no entity. -/
inductive Rejected : Json → Error → Prop where
  | shape {document} (other : ¬ IsObject document) : Rejected document (.unsupportedEntityKind document.kindName)
  | marker {entries error} (fault : MarkerFault entries error) : Rejected (.object entries) error
  | role {entries error} (marked : Marked entries .role) (fault : FirstFault (roleChecks entries) error) :
    Rejected (.object entries) error
  | environment {entries error} (marked : Marked entries .environment)
    (fault : FirstFault (environmentChecks entries) error) : Rejected (.object entries) error

end Faults

section Readers
variable {entries : Entries Json} {field : String}

private theorem shapeFault_iff {kind : EntityKind} {accepted : Json → Prop} {expected : Shape} {error : Error} :
    ShapeFault kind entries field accepted expected error ↔
      ∃ value, Holds entries field value ∧ ¬ accepted value ∧ error = .invalidField kind field expected := by
  constructor
  · rintro ⟨present, other⟩
    exact ⟨_, present, other, rfl⟩
  · rintro ⟨value, present, other, rfl⟩
    exact .intro present other

/-- A reader of an optional field passes where the field is absent, and else decides by what the field holds. -/
theorem decides_optional {α : Type} {step : Except Error α} {accepted : Json → Prop} {fault : Json → Error → Prop}
    (missing : Absent entries field → ∃ value, step = .ok value)
    (present : ∀ value, Holds entries field value → Decides step (accepted value) (fault value)) :
    Decides step (IsOptional entries field accepted)
      fun error => ∃ value, Holds entries field value ∧ fault value error := by
  rcases absent_or_holds entries field with absent | ⟨value, holds⟩
  · obtain ⟨result, found⟩ := missing absent
    subst found
    have nothing := absent_iff.mp absent
    refine ⟨⟨fun _ value holds => absurd holds (nothing value), fun _ => ⟨result, rfl⟩⟩, ?_⟩
    intro error
    constructor
    · intro failed
      cases failed
    · rintro ⟨value, holds, _⟩
      exact absurd holds (nothing value)
  · refine (present value holds).congr ?_ ?_
    · constructor
      · intro accepts other also
        exact holds.unique also ▸ accepts
      · intro accepts
        exact accepts value holds
    · intro error
      constructor
      · intro fault
        exact ⟨value, holds, fault⟩
      · rintro ⟨other, also, fault⟩
        exact holds.unique also ▸ fault

private theorem decides_optionalString (kind : EntityKind) (entries : Entries Json) (field : String) :
    Decides (optionalString kind entries field) (IsOptional entries field IsString)
      (StringFault kind entries field) := by
  refine (decides_optional ?_ ?_).congr Iff.rfl fun error => shapeFault_iff.symm
  · intro absent
    exact ⟨"", by rw [optionalString, field?_eq_none.mpr absent]⟩
  · intro value present
    rw [optionalString, field?_eq_some.mpr present]
    cases value with
    | string text => exact .passed rfl ⟨text, rfl⟩ _
    | _ => exact .failed rfl (by simp [IsString])

private theorem decides_optionalObject (kind : EntityKind) (entries : Entries Json) (field : String) :
    Decides (optionalObject kind entries field) (IsOptional entries field IsObject)
      (ObjectFault kind entries field) := by
  refine (decides_optional ?_ ?_).congr Iff.rfl fun error => shapeFault_iff.symm
  · intro absent
    exact ⟨[], by rw [optionalObject, field?_eq_none.mpr absent]⟩
  · intro value present
    rw [optionalObject, field?_eq_some.mpr present]
    cases value with
    | object fields => exact .passed rfl ⟨fields, rfl⟩ _
    | _ => exact .failed rfl (by simp [IsObject])

private theorem decides_requiredString (kind : EntityKind) (entries : Entries Json) (field : String) :
    Decides (requiredString kind entries field) (∃ text, Holds entries field (.string text))
      (RequiredStringFault kind entries field) := by
  rcases absent_or_holds entries field with absent | ⟨value, holds⟩
  · have nothing := absent_iff.mp absent
    have refused : ¬ ∃ text, Holds entries field (.string text) := by
      rintro ⟨text, holds⟩
      exact nothing _ holds
    rw [requiredString, field?_eq_none.mpr absent]
    refine (Decides.failed rfl refused).congr Iff.rfl fun error => ⟨?_, ?_⟩
    · rintro ⟨_, rfl⟩
      exact .missing absent
    · rintro (_ | ⟨⟨holds, _⟩⟩)
      · exact ⟨refused, rfl⟩
      · exact absurd holds (nothing _)
  · have visible := holds.not_absent
    have string : (∃ text, Holds entries field (.string text)) ↔ IsString value := by
      constructor
      · rintro ⟨text, also⟩
        exact ⟨text, holds.unique also⟩
      · rintro ⟨text, rfl⟩
        exact ⟨text, holds⟩
    have faults (error : Error) : ¬ IsString value ∧ error = .invalidField kind field .string ↔
        RequiredStringFault kind entries field error := by
      constructor
      · rintro ⟨other, rfl⟩
        exact .shape (.intro holds other)
      · rintro (absent | ⟨⟨also, other⟩⟩)
        · exact absurd absent visible
        · exact ⟨holds.unique also ▸ other, rfl⟩
    rw [requiredString, field?_eq_some.mpr holds]
    refine Decides.congr ?_ string.symm faults
    cases value with
    | string text => exact .passed rfl ⟨text, rfl⟩ _
    | _ => exact .failed rfl (by simp [IsString])

section Members
variable {α : Type} {read : String × Json → Except Error α} {accepted : Json → Prop}
  {fault : String × Json → Error → Prop} {kind : EntityKind}

private theorem membersFault_iff {error : Error} : MembersFault kind entries field fault error ↔
    ∃ value, Holds entries field value ∧ ((¬ IsObject value ∧ error = .invalidField kind field .object) ∨
      ∃ fields, value = .object fields ∧ FirstFault (fields.map fault) error) := by
  constructor
  · rintro (⟨present, other⟩ | ⟨present, first⟩)
    · exact ⟨_, present, Or.inl ⟨other, rfl⟩⟩
    · exact ⟨_, present, Or.inr ⟨_, rfl, first⟩⟩
  · rintro ⟨value, present, ⟨other, rfl⟩ | ⟨fields, rfl, first⟩⟩
    · exact .shape (.intro present other)
    · exact .member present first

private theorem decides_members (each : ∀ entry, Decides (read entry) (accepted entry.2) (fault entry)) :
    Decides (do (← optionalObject kind entries field).mapM read) (IsOptional entries field (IsObjectOf accepted))
      (MembersFault kind entries field fault) := by
  refine (decides_optional ?_ ?_).congr Iff.rfl fun error => membersFault_iff.symm
  · intro absent
    rw [optionalObject, field?_eq_none.mpr absent]
    exact ⟨[], rfl⟩
  · intro value present
    rw [optionalObject, field?_eq_some.mpr present]
    cases value with
    | object fields =>
      refine (Decides.mapM each fields).congr ?_ ?_
      · simp [IsObjectOf]
      · simp [IsObject]
    | _ => exact (Decides.failed rfl (by simp [IsObjectOf])).congr Iff.rfl (by simp [IsObjectOf, IsObject])

end Members

section RunLists
variable {value : Json} {error : Error}

private theorem itemFault_text {text : String} :
    ItemFault field (.string text) error ↔
      RunList.Item.parse? text.toList = none ∧ error = .invalidRunListItem text := by
  constructor
  · rintro (other | unreadable)
    · exact absurd ⟨text, rfl⟩ other
    · exact ⟨unreadable, rfl⟩
  · rintro ⟨unreadable, rfl⟩
    exact .text unreadable

private theorem itemFault_other (other : ¬ IsString value) :
    ItemFault field value error ↔ error = .invalidField .role field .stringArray := by
  constructor
  · rintro (_ | _)
    · rfl
    · exact absurd ⟨_, rfl⟩ other
  · rintro rfl
    exact .shape other

private theorem runListFault_other (other : ∀ items, value ≠ .array items) :
    RunListFault field value error ↔ error = .invalidField .role field .stringArray := by
  constructor
  · rintro (_ | _)
    · rfl
    · exact absurd rfl (other _)
  · rintro rfl
    exact .shape other

private theorem runListFault_array {items : List Json} :
    RunListFault field (.array items) error ↔ FirstFault (items.map (ItemFault field)) error := by
  constructor
  · rintro (other | first)
    · exact absurd rfl (other items)
    · exact first
  · exact .item

private theorem decides_itemText (field text : String) :
    Decides (RunList.Item.parse text) (IsItem (.string text)) (ItemFault field (.string text)) := by
  have known : IsItem (.string text) ↔ ∃ item, RunList.Item.parse? text.toList = some item := by
    simp [IsItem]
  have faults (error : Error) : ¬ IsItem (.string text) ∧ error = .invalidRunListItem text ↔
      ItemFault field (.string text) error := by
    rw [known, not_exists, ← Option.eq_none_iff_forall_ne_some, itemFault_text]
  refine Decides.congr ?_ Iff.rfl faults
  unfold RunList.Item.parse
  split
  · next item found => exact .passed rfl (known.mpr ⟨item, found⟩) _
  · next missing => exact .failed rfl (by simp [known, missing])

private theorem decides_runListItems (field : String) (value : Json) :
    Decides (runListItems field value) (IsRunList value) (RunListFault field value) := by
  cases value with
  | array items =>
    have inside : Decides (runListItems field (.array items)) (∀ item ∈ items, IsItem item)
        (FirstFault (items.map (ItemFault field))) := by
      apply Decides.mapM
      intro item
      cases item with
      | string text => exact decides_itemText field text
      | _ => exact (Decides.failed rfl (by simp [IsItem])).congr Iff.rfl (by simp [itemFault_other, IsItem, IsString])
    exact inside.congr (by simp [IsRunList]) fun error => runListFault_array.symm
  | _ => exact (Decides.failed rfl (by simp [IsRunList])).congr Iff.rfl (by simp [runListFault_other, IsRunList])

end RunLists

section Markers

variable {value : Json} {error : Error}

theorem HoldsMarker.unique {other : Json} (marker : HoldsMarker entries value) (also : HoldsMarker entries other) :
    value = other := by
  rcases marker with holds | ⟨classless, holds⟩ <;> rcases also with present | ⟨absent, present⟩
  · exact holds.unique present
  · exact absurd absent holds.not_absent
  · exact absurd classless present.not_absent
  · exact holds.unique present

private theorem HoldsMarker.not_missing (marker : HoldsMarker entries value) (classless : Absent entries "json_class") :
    ¬ Absent entries "chef_type" := by
  rcases marker with present | ⟨_, present⟩
  · exact absurd classless present.not_absent
  · exact present.not_absent

private theorem missing_or_holdsMarker (entries : Entries Json) :
    (Absent entries "json_class" ∧ Absent entries "chef_type") ∨ ∃ value, HoldsMarker entries value := by
  rcases absent_or_holds entries "json_class" with classless | ⟨value, present⟩
  · rcases absent_or_holds entries "chef_type" with typeless | ⟨value, present⟩
    · exact Or.inl ⟨classless, typeless⟩
    · exact Or.inr ⟨value, Or.inr ⟨classless, present⟩⟩
  · exact Or.inr ⟨value, Or.inl present⟩

private theorem markerFault_missing (classless : Absent entries "json_class") (typeless : Absent entries "chef_type") :
    MarkerFault entries error ↔ error = .unsupportedEntityKind "object" := by
  constructor
  · rintro (_ | ⟨marker, _⟩ | ⟨marker, _⟩)
    · rfl
    · exact absurd typeless (marker.not_missing classless)
    · exact absurd typeless (marker.not_missing classless)
  · rintro rfl
    exact .missing classless typeless

private theorem markerFault_other (marker : HoldsMarker entries value) (other : ¬ IsString value) :
    MarkerFault entries error ↔ error = .unsupportedEntityKind value.kindName := by
  constructor
  · rintro (⟨classless, typeless⟩ | ⟨also, _⟩ | ⟨also, _⟩)
    · exact absurd typeless (marker.not_missing classless)
    · rw [marker.unique also]
    · exact absurd ⟨_, marker.unique also⟩ other
  · rintro rfl
    exact .shape marker other

private theorem markerFault_text {text : String} (marker : HoldsMarker entries (.string text)) :
    MarkerFault entries error ↔ (¬ ∃ kind, Marked entries kind) ∧ error = .unsupportedEntityKind text := by
  constructor
  · rintro (⟨classless, typeless⟩ | ⟨also, other⟩ | ⟨also, unknown⟩)
    · exact absurd typeless (marker.not_missing classless)
    · exact absurd ⟨text, marker.unique also ▸ rfl⟩ other
    · have same := Json.string.inj (marker.unique also)
      rw [same]
      exact ⟨not_exists.mpr unknown, rfl⟩
  · rintro ⟨unknown, rfl⟩
    exact .text marker (not_exists.mp unknown)

private theorem kind_of_marker (holds : HoldsMarker entries value) :
    ∃ marker : Marker, marker.value = value ∧ Document.kind entries = marker.kind := by
  rcases holds with present | ⟨classless, present⟩
  · exact ⟨.jsonClass value, rfl, kind_of_class present⟩
  · exact ⟨.chefType value, rfl, kind_of_type classless present⟩

private theorem marker_kind_other {marker : Marker} (other : ¬ IsString marker.value) :
    marker.kind = .error (.unsupportedEntityKind marker.value.kindName) := by
  unfold Marker.kind
  split
  · next text read => exact absurd ⟨text, read⟩ other
  · rfl

private theorem marker_kind_text {marker : Marker} {text : String} (read : marker.value = .string text)
    (unknown : ∀ kind, marker.kind ≠ .ok kind) : marker.kind = .error (.unsupportedEntityKind text) := by
  unfold Marker.kind at unknown ⊢
  simp only [read] at unknown ⊢
  split at unknown
  · exact absurd rfl (unknown .role)
  · next role =>
    split at unknown
    · exact absurd rfl (unknown .environment)
    · next environment => rw [if_neg role, if_neg environment]

private theorem decides_kind (entries : Entries Json) :
    Decides (Document.kind entries) (∃ kind, Marked entries kind) (MarkerFault entries) := by
  have known : (∃ kind, Marked entries kind) ↔ ∃ kind, Document.kind entries = .ok kind :=
    exists_congr fun kind => kind_eq_ok.symm
  have refused {reported : Error} (failed : Document.kind entries = .error reported) :
      ¬ ∃ kind, Marked entries kind := by
    simp [known, failed]
  rcases missing_or_holdsMarker entries with ⟨classless, typeless⟩ | ⟨value, holds⟩
  · have failed := kind_unmarked classless typeless
    exact (Decides.failed failed (refused failed)).congr Iff.rfl
      (by simp [markerFault_missing classless typeless, refused failed])
  · obtain ⟨marker, read, same⟩ := kind_of_marker holds
    by_cases string : IsString value
    · obtain ⟨text, rfl⟩ := string
      by_cases marked : ∃ kind, Marked entries kind
      · obtain ⟨kind, found⟩ := known.mp marked
        exact (Decides.passed found marked _).congr Iff.rfl fun error => (markerFault_text holds).symm
      · have failed : Document.kind entries = .error (.unsupportedEntityKind text) := by
          rw [same]
          exact marker_kind_text read fun kind found => marked (known.mpr ⟨kind, same.trans found⟩)
        exact (Decides.failed failed marked).congr Iff.rfl fun error => (markerFault_text holds).symm
    · have failed : Document.kind entries = .error (.unsupportedEntityKind value.kindName) := by
        rw [same, marker_kind_other (read ▸ string), read]
      exact (Decides.failed failed (refused failed)).congr Iff.rfl
        (by simp [markerFault_other holds string, refused failed])

end Markers

section Entities

private theorem decides_globalRunList (entries : Entries Json) :
    Decides (globalRunList entries)
      (IsOptional entries "run_list" IsRunList ∧ (Absent entries "run_list" → IsOptional entries "recipes" IsRunList))
      (GlobalRunListFault entries) := by
  rcases absent_or_holds entries "run_list" with absent | ⟨value, holds⟩
  · have nothing := absent_iff.mp absent
    have recipes : Decides (runListField entries "recipes") (IsOptional entries "recipes" IsRunList)
        fun error => ∃ value, Holds entries "recipes" value ∧ RunListFault "recipes" value error := by
      refine decides_optional ?_ ?_
      · intro absent
        exact ⟨[], by rw [runListField, field?_eq_none.mpr absent]⟩
      · intro value holds
        rw [runListField, field?_eq_some.mpr holds]
        exact decides_runListItems "recipes" value
    rw [globalRunList, field?_eq_none.mpr absent]
    refine recipes.congr ⟨?_, ?_⟩ fun error => ⟨?_, ?_⟩
    · intro accepted
      exact ⟨fun value holds => absurd holds (nothing value), fun _ => accepted⟩
    · rintro ⟨_, accepted⟩
      exact accepted absent
    · rintro ⟨value, holds, fault⟩
      exact .recipes absent holds fault
    · rintro (⟨holds, _⟩ | ⟨_, holds, fault⟩)
      · exact absurd holds (nothing _)
      · exact ⟨_, holds, fault⟩
  · have visible := holds.not_absent
    rw [globalRunList, field?_eq_some.mpr holds]
    refine (decides_runListItems "run_list" value).congr ⟨?_, ?_⟩ fun error => ⟨?_, ?_⟩
    · intro accepted
      refine ⟨fun other also => ?_, fun absent => absurd absent visible⟩
      exact holds.unique also ▸ accepted
    · rintro ⟨accepted, _⟩
      exact accepted value holds
    · intro fault
      exact .runList holds fault
    · rintro (⟨also, fault⟩ | ⟨absent, _, _⟩)
      · exact holds.unique also ▸ fault
      · exact absurd absent visible

private theorem decides_ownRunLists (entries : Entries Json) :
    Decides (ownRunLists entries) (IsOptional entries "env_run_lists" (IsObjectOf IsRunList))
      (MembersFault .role entries "env_run_lists" fun entry => RunListFault ("env_run_lists." ++ entry.1) entry.2) := by
  unfold ownRunLists
  refine decides_members fun entry => ?_
  rw [bind_return]
  exact (decides_runListItems _ _).map _

private theorem decides_cookbookVersions (entries : Entries Json) :
    Decides (cookbookVersions entries) (IsOptional entries "cookbook_versions" (IsObjectOf IsString))
      (MembersFault .environment entries "cookbook_versions" CookbookFault) := by
  have faults (cookbook : String) (value : Json) (error : Error) : CookbookFault (cookbook, value) error ↔
      ¬ IsString value ∧ error = .invalidField .environment ("cookbook_versions." ++ cookbook) .string := by
    constructor
    · rintro ⟨other⟩
      exact ⟨other, rfl⟩
    · rintro ⟨other, rfl⟩
      exact .intro other
  unfold cookbookVersions
  refine decides_members fun (cookbook, value) => ?_
  refine Decides.congr ?_ Iff.rfl fun error => (faults cookbook value error).symm
  cases value with
  | string constraint => exact .passed rfl ⟨constraint, rfl⟩ _
  | _ => exact .failed rfl (by simp [IsString])

private theorem decides_role (entries : Entries Json) :
    Decides (Document.role entries) (RoleFields entries) (FirstFault (roleChecks entries)) := by
  unfold Document.role
  refine Decides.congr ((decides_globalRunList entries).bind fun globalList _ =>
    (decides_ownRunLists entries).bind fun own _ =>
    (decides_requiredString .role entries "name").bind fun name _ =>
    (decides_optionalString .role entries "description").bind fun description _ =>
    ((decides_optionalObject .role entries "default_attributes").map Value.ofEntries).bind fun defaults _ =>
    ((decides_optionalObject .role entries "override_attributes").map Value.ofEntries).bind fun overrides _ =>
    Decides.ok _) ?_ fun error => Iff.rfl
  constructor
  · rintro ⟨⟨runList, recipes⟩, envRunLists, name, description, defaults, overrides, _⟩
    exact ⟨⟨name, description, defaults, overrides⟩, runList, recipes, envRunLists⟩
  · rintro ⟨⟨name, description, defaults, overrides⟩, runList, recipes, envRunLists⟩
    exact ⟨⟨runList, recipes⟩, envRunLists, name, description, defaults, overrides, trivial⟩

private theorem decides_environment (entries : Entries Json) :
    Decides (Document.environment entries) (EnvironmentFields entries) (FirstFault (environmentChecks entries)) := by
  unfold Document.environment
  refine Decides.congr ((decides_cookbookVersions entries).bind fun versions _ =>
    (decides_requiredString .environment entries "name").bind fun name _ =>
    (decides_optionalString .environment entries "description").bind fun description _ =>
    ((decides_optionalObject .environment entries "default_attributes").map Value.ofEntries).bind fun defaults _ =>
    ((decides_optionalObject .environment entries "override_attributes").map Value.ofEntries).bind fun overrides _ =>
    Decides.ok _) ?_ fun error => Iff.rfl
  constructor
  · rintro ⟨cookbookVersions, name, description, defaults, overrides, _⟩
    exact ⟨⟨name, description, defaults, overrides⟩, cookbookVersions⟩
  · rintro ⟨⟨name, description, defaults, overrides⟩, cookbookVersions⟩
    exact ⟨cookbookVersions, name, description, defaults, overrides, trivial⟩

end Entities

end Readers

section Loading

private theorem load_accepts (document : Json) (kind : EntityKind) :
    (∃ entity, load document = .ok entity ∧ entity.kind = kind) ↔ Acceptable document kind := by
  constructor
  · rintro ⟨entity, loaded, rfl⟩
    cases document with
    | object entries =>
      cases found : Document.kind entries with
      | error error =>
        rw [load_of_unmarked found] at loaded
        cases loaded
      | ok kind =>
        have marked := kind_eq_ok.mp found
        cases kind with
        | role =>
          rw [load_of_role marked] at loaded
          obtain ⟨role, read, rfl⟩ := map_eq_ok.mp loaded
          exact .role marked ((decides_role entries).accepts.mp ⟨role, read⟩)
        | environment =>
          rw [load_of_environment marked] at loaded
          obtain ⟨environment, read, rfl⟩ := map_eq_ok.mp loaded
          exact .environment marked ((decides_environment entries).accepts.mp ⟨environment, read⟩)
    | _ => cases loaded
  · intro acceptable
    cases acceptable with
    | role marked fields =>
      obtain ⟨role, read⟩ := (decides_role _).accepts.mpr fields
      exact ⟨.role role, by rw [load_of_role marked, read]; rfl, rfl⟩
    | environment marked fields =>
      obtain ⟨environment, read⟩ := (decides_environment _).accepts.mpr fields
      exact ⟨.environment environment, by rw [load_of_environment marked, read]; rfl, rfl⟩

private theorem load_refuses (document : Json) (error : Error) :
    load document = .error error ↔ Rejected document error := by
  constructor
  · intro failed
    cases document with
    | object entries =>
      cases found : Document.kind entries with
      | error fault =>
        rw [load_of_unmarked found] at failed
        cases failed
        exact .marker (((decides_kind entries).refuses error).mp found)
      | ok kind =>
        have marked := kind_eq_ok.mp found
        cases kind with
        | role =>
          rw [load_of_role marked, map_eq_error] at failed
          exact .role marked (((decides_role entries).refuses error).mp failed)
        | environment =>
          rw [load_of_environment marked, map_eq_error] at failed
          exact .environment marked (((decides_environment entries).refuses error).mp failed)
    | _ =>
      cases failed
      exact .shape (by simp [IsObject])
  · intro rejected
    cases rejected with
    | shape other =>
      cases document with
      | object entries => exact absurd ⟨entries, rfl⟩ other
      | _ => rfl
    | marker fault => exact load_of_unmarked (((decides_kind _).refuses error).mpr fault)
    | role marked fault =>
      rw [load_of_role marked, map_eq_error, (decides_role _).refuses]
      exact fault
    | environment marked fault =>
      rw [load_of_environment marked, map_eq_error, (decides_environment _).refuses]
      exact fault

/-- A document describes an entity of a kind exactly if it is marked so and all its fields are in order. Of any other
document the fault is reported that the first failing check finds. -/
theorem load_decides (document : Json) :
    (∀ kind, (∃ entity, load document = .ok entity ∧ entity.kind = kind) ↔ Acceptable document kind) ∧
      ∀ error, load document = .error error ↔ Rejected document error :=
  ⟨load_accepts document, load_refuses document⟩

end Loading

end ChefDsl.Proofs.Acceptance
