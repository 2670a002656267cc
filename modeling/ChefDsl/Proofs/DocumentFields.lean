import ChefDsl.Document
import ChefDsl.Proofs.Results

/-! The fields of a document, said without the readers. A field counts as absent if it is missing or null, and every
reader of a field sees no more of a document than what the field holds. -/

namespace ChefDsl.Proofs.DocumentFields
open Document Results
variable {entries first second : Entries Json} {field : String} {value : Json}

def Holds (entries : Entries Json) (field : String) (value : Json) : Prop :=
  entries.lookup field = some value ∧ value ≠ .null

def Absent (entries : Entries Json) (field : String) : Prop :=
  entries.lookup field = none ∨ entries.lookup field = some .null

/-- Two documents hold the same under a field, or both hold nothing there. -/
def Agree (first second : Entries Json) (field : String) : Prop :=
  ∀ value, Holds first field value ↔ Holds second field value

/-- The mark of a document names its kind. A class that is present decides alone. -/
inductive Marked (entries : Entries Json) : EntityKind → Prop where
  | roleClass (present : Holds entries "json_class" (.string "Chef::Role")) : Marked entries .role
  | environmentClass (present : Holds entries "json_class" (.string "Chef::Environment")) : Marked entries .environment
  | roleType (classless : Absent entries "json_class") (present : Holds entries "chef_type" (.string "role")) :
    Marked entries .role
  | environmentType (classless : Absent entries "json_class")
    (present : Holds entries "chef_type" (.string "environment")) : Marked entries .environment

section Presence

theorem field?_eq_some : Json.field? entries field = some value ↔ Holds entries field value := by
  unfold Json.field? Holds
  split
  · next missing => simp [missing]
  · next null =>
    rw [null]
    constructor
    · intro present
      cases present
    · rintro ⟨same, visible⟩
      exact absurd (Option.some.inj same).symm visible
  · next other visible found =>
    rw [found]
    constructor
    · intro same
      cases same
      exact ⟨rfl, visible⟩
    · exact And.left

theorem field?_eq_none : Json.field? entries field = none ↔ Absent entries field := by
  unfold Json.field? Absent
  split
  · next missing => simp [missing]
  · next null => simp [null]
  · next other visible found =>
    rw [found]
    constructor
    · intro missing
      cases missing
    · rintro (missing | null)
      · cases missing
      · exact absurd (Option.some.inj null) visible

theorem absent_iff : Absent entries field ↔ ∀ value, ¬ Holds entries field value := by
  simp only [← field?_eq_none, ← field?_eq_some, Option.eq_none_iff_forall_ne_some, ne_eq]

theorem Holds.not_absent (holds : Holds entries field value) : ¬ Absent entries field := by
  intro absent
  exact absent_iff.mp absent value holds

theorem Holds.unique {other : Json} (holds : Holds entries field value) (also : Holds entries field other) :
    value = other := by
  rw [← field?_eq_some] at holds also
  exact Option.some.inj (holds.symm.trans also)

theorem agree_iff : Agree first second field ↔ Json.field? first field = Json.field? second field := by
  constructor
  · intro agree
    apply Option.ext
    intro value
    exact (field?_eq_some.trans (agree value)).trans field?_eq_some.symm
  · intro same value
    rw [← field?_eq_some, same, field?_eq_some]

end Presence

section Marks
variable {kind : EntityKind}

theorem kind_of_class (present : Holds entries "json_class" value) :
    Document.kind entries = (Marker.jsonClass value).kind := by
  rw [Document.kind, marker?, field?_eq_some.mpr present]

theorem kind_of_type (classless : Absent entries "json_class") (present : Holds entries "chef_type" value) :
    Document.kind entries = (Marker.chefType value).kind := by
  rw [Document.kind, marker?, field?_eq_none.mpr classless, field?_eq_some.mpr present]
  rfl

theorem kind_unmarked (classless : Absent entries "json_class") (typeless : Absent entries "chef_type") :
    Document.kind entries = .error (.unsupportedEntityKind "object") := by
  rw [Document.kind, marker?, field?_eq_none.mpr classless, field?_eq_none.mpr typeless]
  rfl

private theorem marker_kind_eq_ok {marker : Marker} :
    marker.kind = .ok kind ↔ marker.value = .string (marker.word kind) := by
  have apart : marker.word .role ≠ marker.word .environment := by
    cases marker <;> simp [Marker.word, EntityKind.name]
  unfold Marker.kind
  split
  · next text read =>
    rw [read, Json.string.injEq]
    split
    · next role => cases kind <;> simp [role, apart]
    · split
      · next environment => cases kind <;> simp [environment, Ne.symm apart]
      · next role environment => cases kind <;> simp [role, environment]
  · next other unreadable =>
    constructor
    · intro impossible
      cases impossible
    · intro read
      exact absurd read (unreadable _)

theorem absent_or_holds (entries : Entries Json) (field : String) :
    Absent entries field ∨ ∃ value, Holds entries field value := by
  cases found : Json.field? entries field with
  | none => exact Or.inl (field?_eq_none.mp found)
  | some value => exact Or.inr ⟨value, field?_eq_some.mp found⟩

theorem kind_eq_ok : Document.kind entries = .ok kind ↔ Marked entries kind := by
  constructor
  · intro marked
    rcases absent_or_holds entries "json_class" with classless | ⟨value, present⟩
    · rcases absent_or_holds entries "chef_type" with typeless | ⟨value, present⟩
      · rw [kind_unmarked classless typeless] at marked
        cases marked
      · rw [kind_of_type classless present] at marked
        have named : value = .string kind.name := marker_kind_eq_ok.mp marked
        subst named
        cases kind with
        | role => exact .roleType classless present
        | environment => exact .environmentType classless present
    · rw [kind_of_class present] at marked
      have named : value = .string ((Marker.jsonClass value).word kind) := marker_kind_eq_ok.mp marked
      cases kind with
      | role => exact .roleClass (named ▸ present)
      | environment => exact .environmentClass (named ▸ present)
  · intro marked
    cases marked with
    | roleClass present => exact (kind_of_class present).trans rfl
    | environmentClass present => exact (kind_of_class present).trans rfl
    | roleType classless present => exact (kind_of_type classless present).trans rfl
    | environmentType classless present => exact (kind_of_type classless present).trans rfl

/-- The kind is decided first, and then the document is read as an entity of that kind. -/
theorem load_of_role (marked : Marked entries .role) : load (.object entries) = (Document.role entries).map .role := by
  rw [load, kind_eq_ok.mpr marked, ok_bind]
  exact bind_return _ _

theorem load_of_environment (marked : Marked entries .environment) :
    load (.object entries) = (Document.environment entries).map .environment := by
  rw [load, kind_eq_ok.mpr marked, ok_bind]
  exact bind_return _ _

theorem load_of_unmarked {error : Error} (unmarked : Document.kind entries = .error error) :
    load (.object entries) = .error error := by
  rw [load, unmarked, error_bind]

theorem Marked.unique {other : EntityKind} (marked : Marked entries kind) (also : Marked entries other) :
    kind = other := by
  rw [← kind_eq_ok] at marked also
  exact Except.ok.inj (marked.symm.trans also)

end Marks

end ChefDsl.Proofs.DocumentFields
