import ChefDsl.Proofs.CanonicalEntities
import ChefDsl.Proofs.DocumentSpelling
import ChefDsl.Proofs.NumeralScaling
import ChefDsl.Proofs.SourceText
import ChefDsl.Proofs.ValueReading

/-! Doubles on their way from a document to its source. A double is printed as its own shortest text, so what happens
to it happens in reading alone, where its decimal is scaled by a power of ten with a rounding at each step. Decimals
of few digits and small powers survive this. Any double keeps its sign and ends at most three doubles away. -/

namespace ChefDsl.Proofs.FloatDrift
open Json JsonNumerals DocumentSpelling Document SourceText

section Doubles
variable {x : Binary64}

/-- Different doubles are printed differently from a finite one. -/
theorem floatText_inj {y : Binary64} (finite : x.isFinite = true)
    (same : Value.floatText y = Value.floatText x) : y = x := by
  have stop : NumberReading.Ends [] := by simp [NumberReading.Ends]
  have read := ValueReading.readScalar_floatText x stop
  have defined : x.isNaN = false := CanonicalValues.isNaN_of_canonical finite
  rw [← same, ValueReading.readScalar_floatText y stop, defined] at read
  have equal := SourceReader.Datum.float.inj (Prod.ext_iff.mp (Option.some.inj read)).1
  rw [if_neg (by simp : ¬ false = true)] at equal
  split at equal
  · rw [← equal] at defined
    exact absurd defined (by decide)
  · exact equal

/-- The decimal that the shortest text of a double shows. -/
def decimalOf (x : Binary64) : Decimal := shown (Value.floatLayout.shortest x.magnitude)

/-- The digits are few enough to be a double, and so is the power of ten that goes with them. -/
def Brief (x : Binary64) : Prop :=
  (decimalOf x).digits ≤ 2 * Binary64.exponentWeight ∧ (decimalOf x).exponent.natAbs ≤ 22

/-- A double of the same sign that is at most three doubles away. -/
structure Near (x y : Binary64) : Prop where
  sign : y.isNegative = x.isNegative
  above : y.magnitude ≤ x.magnitude + 3
  below : x.magnitude ≤ y.magnitude + 3

private theorem reread_brief (finite : x.isFinite = true) (brief : Brief x) : reread x = x := by
  obtain ⟨decimal, written, magnitude, _, _⟩ := NumeralShape.shows_shortest (of_decide_eq_true finite)
  obtain ⟨digits, exponent⟩ := brief
  rw [decimalOf, shown_written written] at digits exponent
  have scaled := NumeralScaling.scale_exact digits exponent
  rw [reread, shown_written written, double, scaled]
  change Binary64.ofMagnitude x.isNegative decimal.magnitude = x
  rw [magnitude]
  exact Binary64.ofMagnitude_magnitude x

private theorem reread_near (finite : x.isFinite = true) : Near x (reread x) := by
  have below : x.magnitude < Binary64.infinite := of_decide_eq_true finite
  obtain ⟨decimal, written, magnitude, digits, exponent⟩ := NumeralShape.shows_shortest below
  obtain ⟨above, under⟩ := NumeralScaling.scale_drift digits exponent
  rw [magnitude] at above under
  have bounded : scaleByPower decimal.digits decimal.exponent < Binary64.signWeight := by
    have limit : Binary64.infinite + 3 < Binary64.signWeight := by decide
    omega
  rw [reread, shown_written written, double]
  refine ⟨Binary64.isNegative_ofMagnitude _ bounded, ?_, ?_⟩
  · rw [Binary64.magnitude_ofMagnitude _ bounded]
    exact above
  · rw [Binary64.magnitude_ofMagnitude _ bounded]
    exact under

end Doubles

section Attributes

private theorem ofJson_eq_hash {document : Json} {entries : List (String × Value)}
    (same : Value.ofJson document = .hash entries) :
    ∃ fields, document = .object fields ∧ Value.ofEntries fields = entries := by
  cases document with
  | object fields => exact ⟨fields, rfl, Value.hash.inj same⟩
  | number value =>
    cases value with
    | natural n =>
      rw [Value.ofJson, Value.ofNumber] at same
      rcases CanonicalValues.ofNatural_cases n with ⟨m, _, signed⟩ | ⟨_, unsigned⟩
      · rw [signed] at same
        cases same
      · rw [unsigned] at same
        cases same
    | _ => cases same
  | _ => cases same

/-- A field that holds an object gives its members as attributes. -/
theorem attributes_of_lookup {kind : EntityKind} {entries : Entries Json} {field : String} {attributes : Attributes}
    {expected : List (String × Value)} (read : Document.attributes kind entries field = .ok attributes)
    (held : (Value.ofEntries entries).lookup field = some (.hash expected)) : attributes = expected := by
  rw [Nesting.ofEntries_eq, lookup_map] at held
  obtain ⟨document, found, same⟩ := Option.map_eq_some_iff.mp held
  obtain ⟨members, rfl, given⟩ := ofJson_eq_hash same
  obtain ⟨fields, object, rfl⟩ := CanonicalEntities.attributes_eq_ok read
  simp only [optionalObject, field?, found, Except.ok.injEq] at object
  rw [← object, given]

private theorem lookup_members {fields : List (String × Tree)} (change : Binary64 → Binary64) {field : String}
    {tree : Tree} (held : (Entries.ofPairs fields).lookup field = some tree) :
    (Entries.ofPairs (Tree.members change fields)).lookup field = some (tree.value change) := by
  have mapped : Entries.ofPairs (Tree.members change fields) =
      (Entries.ofPairs fields).map fun entry => (entry.1, entry.2.value change) := by
    rw [Tree.members_eq]
    exact putAll_map (Tree.value change) [] fields
  rw [mapped, lookup_map, held]
  rfl

def attributeFields : List String := ["default_attributes", "override_attributes"]

/-- Both kinds of attributes are written by a call of their own. -/
theorem exists_attributeBlock {entries : Entries Json} {entity : Entity} (loaded : load (.object entries) = .ok entity)
    {field : String} (among : field ∈ attributeFields) :
    ∃ kind attributes, Document.attributes kind entries field = .ok attributes ∧
      .call field [.hash attributes] ∈ entityBlocks entity := by
  obtain ⟨_, same, ⟨role, read, rfl⟩ | ⟨environment, read, rfl⟩⟩ := CanonicalEntities.load_eq_ok loaded
  · cases same
    simp only [Document.role, Results.bind_eq_ok, Results.pure_eq_ok, Except.ok.injEq] at read
    obtain ⟨_, _, _, _, _, _, _, _, defaults, defaultsRead, overrides, overridesRead, rfl⟩ := read
    rcases List.mem_pair.mp among with rfl | rfl
    · exact ⟨.role, defaults, defaultsRead, by simp [entityBlocks, roleBlocks]⟩
    · exact ⟨.role, overrides, overridesRead, by simp [entityBlocks, roleBlocks]⟩
  · cases same
    simp only [Document.environment, Results.bind_eq_ok, Results.pure_eq_ok, Except.ok.injEq] at read
    obtain ⟨_, _, _, _, _, _, defaults, defaultsRead, overrides, overridesRead, rfl⟩ := read
    rcases List.mem_pair.mp among with rfl | rfl
    · exact ⟨.environment, defaults, defaultsRead, by simp [entityBlocks, environmentBlocks]⟩
    · exact ⟨.environment, overrides, overridesRead, by simp [entityBlocks, environmentBlocks]⟩

private theorem text_infix_fileText {blocks : List Block} {block : Block} (member : block ∈ blocks) :
    block.text <:+: fileText blocks := by
  induction blocks with
  | nil => cases member
  | cons first rest ih =>
    by_cases last : rest = []
    · subst last
      rw [List.mem_singleton.mp member]
      simp [fileText, Text.ofLines]
    · rw [fileText_cons first last]
      rcases List.mem_cons.mp member with rfl | later
      · exact (List.prefix_append _ _).isInfix
      · exact (ih later).trans ((List.suffix_cons '\n' _).trans (List.suffix_append first.text _)).isInfix

/-- The attributes under a field as they stand in the source. -/
def attributesText (field : String) (attributes : Value) : Text :=
  field.toList ++ "(\n  ".toList ++ attributes.format ⟨1⟩ ++ "\n)".toList

private theorem callText_hash (field : String) (entries : List (String × Value)) :
    callText field [.hash entries] = attributesText field (.hash entries) := by
  have placed : argumentsText [.hash entries] = "  ".toList ++ ValueLayout.layoutAt 1 (.hash entries) := by
    rw [argumentsText_eq (by simp), List.map_singleton, List.intercalate_singleton]
    rfl
  rw [callText, placed, attributesText, ValueLayout.format_eq]
  simp

end Attributes

/-- In the source of a document with doubles written as their shortest texts, the attributes stand as they are in the
document, but with each double as it is read. A double is printed as the text it was written with exactly if it is
read as it is, and so it is if its digits and its power of ten are small. Whatever it is, it stays near. -/
theorem floats_reread {before token behind : Text} {fields attributes : List (String × Tree)} {text field : String}
    {source : Text} (spells : Spells (.object fields) token) (first : Gap before) (last : Gap behind)
    (written : text.toList = before ++ token ++ behind) (accepted : toSource text = .ok source)
    (among : field ∈ attributeFields) (held : (Entries.ofPairs fields).lookup field = some (.object attributes)) :
    attributesText field ((Tree.object attributes).value reread) <:+: source ∧
      ∀ x, x.isFinite = true → (Value.floatText (reread x) = Value.floatText x ↔ reread x = x) ∧
        (Brief x → reread x = x) ∧ Near x (reread x) := by
  obtain ⟨entity, loaded, printed⟩ := Results.bind_eq_ok.mp accepted
  obtain ⟨document, parsed, read⟩ := Results.bind_eq_ok.mp loaded
  have given := ParsedKeys.mapError_eq_ok parsed
  rw [written] at given
  have same := ofJson_parsed spells first last given
  obtain ⟨entries, rfl, members⟩ := ofJson_eq_hash same
  obtain ⟨kind, actual, attributesRead, block⟩ := exists_attributeBlock read among
  have expected := lookup_members reread held
  rw [← members] at expected
  cases attributes_of_lookup attributesRead expected
  rw [entity_source] at printed
  cases printed
  have inside := text_infix_fileText block
  rw [Block.text, callText_hash] at inside
  refine ⟨inside, ?_⟩
  intro x finite
  exact ⟨⟨floatText_inj finite, congrArg Value.floatText⟩, reread_brief finite, reread_near finite⟩

section Roles
variable (x : Binary64)

def floatField : Field := .plain "x" (.float x) (Value.floatText x)

def attributesField : Field :=
  .plain "default_attributes" (.object [("x", .float x)]) (objectText [floatField x])

def roleFields : List Field :=
  [.plain "name" (.string "web") "\"web\"".toList, .plain "chef_type" (.string "role") "\"role\"".toList,
    attributesField x]

/-- A role with one double among its attributes. -/
def roleText : String := String.ofList (objectText (roleFields x))

def roleTree : List (String × Tree) := (roleFields x).map fun field => (field.key, field.item.tree)

private theorem spells_roleText (finite : x.isFinite = true) : Spells (.object (roleTree x)) (roleText x).toList := by
  have attributes : Spells (.object ([floatField x].map fun field => (field.key, field.item.tree)))
      (objectText [floatField x]) := by
    apply spells_objectText
    · exact List.forall_mem_singleton.mpr (Field.spaced_plain (by decide) _ _)
    · exact List.forall_mem_singleton.mpr (.float finite)
  rw [roleText, String.toList_ofList]
  apply spells_objectText
  · simp only [roleFields, attributesField, List.forall_mem_cons]
    exact ⟨Field.spaced_plain (by decide) _ _, Field.spaced_plain (by decide) _ _, Field.spaced_plain (by decide) _ _,
      by simp⟩
  · simp only [roleFields, List.forall_mem_cons]
    exact ⟨.string (quotes_plain (by decide : "web".toList.all isPlain = true)),
      .string (quotes_plain (by decide : "role".toList.all isPlain = true)), attributes, by simp⟩

private theorem lookup_roleTree :
    (Entries.ofPairs (roleTree x)).lookup "default_attributes" = some (.object [("x", .float x)]) := rfl

end Roles

instance (x : Binary64) : Decidable (Brief x) := inferInstanceAs (Decidable (_ ∧ _))

def tenth : Binary64 := ⟨0x3FB999999999999A⟩

theorem floats_reread_tenth :
    ∃ source, Spells (.object (roleTree tenth)) (roleText tenth).toList ∧ Gap [] ∧
      (roleText tenth).toList = [] ++ (roleText tenth).toList ++ [] ∧ toSource (roleText tenth) = .ok source ∧
      "default_attributes" ∈ attributeFields ∧
      (Entries.ofPairs (roleTree tenth)).lookup "default_attributes" = some (.object [("x", .float tenth)]) ∧
      tenth.isFinite = true ∧ Brief tenth ∧
      attributesText "default_attributes" ((Tree.object [("x", .float tenth)]).value reread) <:+: source ∧
      reread tenth = tenth ∧ Near tenth (reread tenth) := by
  have finite : tenth.isFinite = true := by decide
  have brief : Brief tenth := by decide +kernel
  have none : Gap [] := by simp [Gap]
  have among : "default_attributes" ∈ attributeFields := by simp [attributeFields]
  have spells := spells_roleText tenth finite
  have written : (roleText tenth).toList = [] ++ (roleText tenth).toList ++ [] := by
    rw [List.nil_append, List.append_nil]
  have held := lookup_roleTree tenth
  have given : (toSource (roleText tenth)).toOption.isSome = true := by decide +kernel
  obtain ⟨source, read⟩ := Option.isSome_iff_exists.mp given
  have accepted := Results.eq_ok_of_toOption read
  obtain ⟨inside, doubles⟩ := floats_reread spells none none written accepted among held
  obtain ⟨_, kept, near⟩ := doubles tenth finite
  exact ⟨source, spells, none, written, accepted, among, held, finite, brief, inside, kept brief, near⟩

/-- Seven times a power of ten that is no double. The double nearest to this power lies below it, and the product that
is read lies below the nearest one as well. -/
def large : Binary64 := ⟨0x44E287626EE52198⟩

def largeText : String := "\x7b\"name\":\"web\",\"chef_type\":\"role\",\"default_attributes\":\x7b\"x\":7e23\x7d\x7d"

def largeSource : Text :=
  "# encoding: utf-8\n\nname(\n  'web'\n)\n\ndescription(\n  ''\n)\n\ndefault_attributes(\n  \x7b\n".toList ++
    "    'x' => 6.999999999999999e23\n  \x7d\n)\n\noverride_attributes(\n  \x7b\x7d\n)\n\nrun_list(\n\n)".toList

/-- Not every double is printed as it was written. -/
theorem large_changes :
    ∃ source, Spells (.object (roleTree large)) largeText.toList ∧ toSource largeText = .ok source ∧
      (Entries.ofPairs (roleTree large)).lookup "default_attributes" = some (.object [("x", .float large)]) ∧
      Value.floatText large = "7e23".toList ∧ "'x' => 6.999999999999999e23".toList <:+: source ∧
      ¬ attributesText "default_attributes" ((Tree.object [("x", .float large)]).value id) <:+: source := by
  have token : Value.floatText large = "7e23".toList := by decide +kernel
  have text : roleText large = largeText := by
    rw [roleText, roleFields, attributesField, floatField, token]
    decide +kernel
  have spells := spells_roleText large (by decide)
  rw [text] at spells
  have given : (toSource largeText).toOption = some largeSource := by decide +kernel
  have changed : "'x' => 6.999999999999999e23".toList <:+: largeSource := by decide +kernel
  have absent : ¬ attributesText "default_attributes" ((Tree.object [("x", .float large)]).value id) <:+:
      largeSource := by
    decide +kernel
  have held := lookup_roleTree large
  exact ⟨largeSource, spells, Results.eq_ok_of_toOption given, held, token, changed, absent⟩

end ChefDsl.Proofs.FloatDrift
