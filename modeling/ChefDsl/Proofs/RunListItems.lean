import ChefDsl.Proofs.TextLines
import ChefDsl.RunList
import Mathlib.Data.List.Basic

/-! Which run list items exist, said without the reader: an item is valid if its parts obey the rules for names and
versions. Every valid item has a form in brackets, and a recipe has a bare form besides. The reader gives an item
exactly for its forms, so it gives only valid items, and each of them for the text that the item is shown as. -/

namespace ChefDsl.Proofs.RunListItems
open RunList TextLines

structure IsName (text : Text) : Prop where
  nonempty : text ≠ []
  opening : '[' ∉ text
  closing : ']' ∉ text

/-- Two or three runs of digits with points between them. -/
def IsVersion (text : Text) : Prop :=
  ∃ runs : List Text, (runs.length = 2 ∨ runs.length = 3) ∧
    (∀ run ∈ runs, run ≠ [] ∧ ∀ c ∈ run, isDigit c = true) ∧ text = ['.'].intercalate runs

/-- Only recipes have versions, and only their names stand before an at sign. -/
def Valid (item : Item) : Prop :=
  IsName item.name.toList ∧
    match item.kind with
    | .role => item.version = none
    | .recipe => '@' ∉ item.name.toList ∧ ∀ version ∈ item.version, IsVersion version.toList

private theorem isName_iff {text : Text} : isName text = true ↔ IsName text := by
  simp only [isName, Bool.and_eq_true, Bool.not_eq_true', List.isEmpty_eq_false_iff, List.all_eq_true, bne_iff_ne]
  constructor
  · rintro ⟨nonempty, plain⟩
    exact ⟨nonempty, fun member => (plain _ member).1 rfl, fun member => (plain _ member).2 rfl⟩
  · rintro ⟨nonempty, opening, closing⟩
    refine ⟨nonempty, fun c member => ⟨?_, ?_⟩⟩
    · rintro rfl
      exact opening member
    · rintro rfl
      exact closing member

private theorem isVersion_iff {text : Text} : isVersion text = true ↔ IsVersion text := by
  simp only [isVersion, Bool.and_eq_true, Bool.or_eq_true, beq_iff_eq, List.all_eq_true, Bool.not_eq_true',
    List.isEmpty_eq_false_iff]
  constructor
  · rintro ⟨count, digits⟩
    exact ⟨text.splitOn '.', count, digits, (List.intercalate_splitOn '.').symm⟩
  · rintro ⟨runs, count, digits, rfl⟩
    have point : ∀ run ∈ runs, '.' ∉ run := by
      intro run member inside
      exact absurd ((digits run member).2 '.' inside) (by decide)
    have nonempty : runs ≠ [] := by
      rintro rfl
      simp at count
    rw [List.splitOn_intercalate '.' point nonempty]
    exact ⟨count, digits⟩

instance (text : Text) : Decidable (IsName text) := decidable_of_iff _ isName_iff

instance (text : Text) : Decidable (IsVersion text) := decidable_of_iff _ isVersion_iff

instance (item : Item) : Decidable (Valid item) :=
  match item with
  | ⟨.role, name, version⟩ => inferInstanceAs (Decidable (IsName name.toList ∧ version = none))
  | ⟨.recipe, name, none⟩ => decidable_of_iff (IsName name.toList ∧ '@' ∉ name.toList) (by simp [Valid])
  | ⟨.recipe, name, some version⟩ =>
    decidable_of_iff (IsName name.toList ∧ '@' ∉ name.toList ∧ IsVersion version.toList) (by simp [Valid])

section Forms

def versionText : Option String → Text
  | some version => '@' :: version.toList
  | none => []

def inBrackets (word : String) (body : Text) : Text := word.toList ++ '[' :: (body ++ [']'])

/-- The ways to write an item. -/
inductive Form where
  | bare (name : String) (version : Option String)
  | recipe (name : String) (version : Option String)
  | role (name : String)

namespace Form

def item : Form → Item
  | bare name version | recipe name version => ⟨.recipe, name, version⟩
  | role name => ⟨.role, name, none⟩

def text : Form → Text
  | bare name version => name.toList ++ versionText version
  | recipe name version => inBrackets "recipe" (name.toList ++ versionText version)
  | role name => inBrackets "role" name.toList

/-- The parts obey the rules for names and versions. -/
def Proper (form : Form) : Prop := Valid form.item

end Form

/-- The text is the form with blanks around it. -/
def Spells (form : Form) (text : Text) : Prop := form.Proper ∧ Trimmed text form.text

private theorem opening_notMem_version {version : Text} (versioned : IsVersion version) : '[' ∉ version := by
  obtain ⟨runs, count, digits, rfl⟩ := versioned
  have plain : ∀ run ∈ runs, '[' ∉ run := by
    intro run inside opening
    exact absurd ((digits run inside).2 '[' opening) (by decide)
  rcases count with two | three
  · obtain ⟨major, minor, rfl⟩ := List.length_eq_two.mp two
    simpa [List.intercalate] using plain
  · obtain ⟨major, minor, patch, rfl⟩ := List.length_eq_three.mp three
    simpa [List.intercalate] using plain

private theorem opening_notMem_bare {name : String} {version : Option String} (valid : Valid ⟨.recipe, name, version⟩) :
    '[' ∉ (Form.bare name version).text := by
  obtain ⟨named, _, versioned⟩ := valid
  cases version with
  | none => simpa [Form.text, versionText] using named.opening
  | some version => simpa [Form.text, versionText, named.opening] using opening_notMem_version (versioned version rfl)

private theorem bare_ne_recipe {name : String} {version : Option String} (valid : Valid ⟨.recipe, name, version⟩) :
    (Form.bare name version).text ≠ (Form.recipe name version).text := by
  intro same
  apply opening_notMem_bare valid
  rw [same]
  simp [Form.text, inBrackets]

/-- The item leaves one choice at most, that of the brackets. -/
theorem Form.eq_of_text {form other : Form} (proper : form.Proper) (also : other.Proper) (same : form.item = other.item)
    (written : form.text = other.text) : form = other := by
  cases form with
  | bare name version =>
    cases other with
    | bare =>
      cases same
      rfl
    | recipe =>
      cases same
      exact absurd written (bare_ne_recipe proper)
    | role => cases same
  | recipe name version =>
    cases other with
    | bare =>
      cases same
      exact absurd written.symm (bare_ne_recipe also)
    | recipe =>
      cases same
      rfl
    | role => cases same
  | role name =>
    cases other with
    | role =>
      cases same
      rfl
    | _ => cases same

end Forms

section Reading
variable {text body : Text} {item : Item}

private theorem body?_eq_some {word : String} : body? word text = some body ↔ text = inBrackets word body := by
  have opening : inBrackets word body = (word.toList ++ ['[']) ++ (body ++ [']']) := by simp [inBrackets]
  rw [opening, body?]
  constructor
  · intro found
    split at found
    · next opens =>
      obtain ⟨rest, rfl⟩ := List.isPrefixOf_iff_prefix.mp opens
      simp only [List.drop_left] at found
      split at found
      · next closes =>
        cases found
        rw [List.dropLast_append_getLast? ']' closes]
      · cases found
    · cases found
  · rintro rfl
    rw [if_pos (List.isPrefixOf_iff_prefix.mpr (List.prefix_append _ _)), List.drop_left]
    simp

private theorem body?_eq_none {word : String} (plain : '[' ∉ text) : body? word text = none := by
  cases found : body? word text with
  | none => rfl
  | some body =>
    rw [body?_eq_some.mp found] at plain
    exact absurd (by simp [inBrackets]) plain

/-- The name of a recipe ends at the first at sign. -/
theorem recipe?_eq_some : recipe? text = some item ↔ ∃ name version,
    Valid ⟨.recipe, name, version⟩ ∧ text = name.toList ++ versionText version ∧ item = ⟨.recipe, name, version⟩ := by
  constructor
  · intro found
    simp only [recipe?, Option.ite_none_right_eq_some, Option.some.injEq, isName_iff] at found
    obtain ⟨⟨named, version⟩, rfl⟩ := found
    have plain := notMem_takeWhile '@' text
    have split := List.takeWhile_append_dropWhile (p := (· != '@')) (l := text)
    rcases dropWhile_mark '@' text with absent | ⟨pinned, present⟩
    · rw [absent, List.append_nil] at split
      rw [split] at named plain
      refine ⟨String.ofList text, none, ⟨by simpa using named, by simpa using plain, by simp⟩, ?_, ?_⟩
      · simp [versionText]
      · simp [absent, split]
    · rw [present] at split version
      have versioned : IsVersion pinned := isVersion_iff.mp (version.resolve_left (List.cons_ne_nil _ _))
      refine ⟨String.ofList (text.takeWhile (· != '@')), some (String.ofList pinned),
        ⟨by simpa using named, by simpa using plain, by simpa using versioned⟩, ?_, ?_⟩
      · simp [versionText, split]
      · simp [present]
  · rintro ⟨name, version, ⟨named, plain, versioned⟩, rfl, rfl⟩
    have before := bne_of_notMem plain
    have stop : ∀ c ∈ (versionText version).head?, (c != '@') = false := by
      cases version <;> simp [versionText]
    rw [recipe?, takeWhile_boundary before stop, dropWhile_boundary before stop]
    cases version with
    | none => simp [versionText, isName_iff.mpr named]
    | some version => simp [versionText, isName_iff.mpr named, isVersion_iff.mpr (versioned version rfl)]

private theorem role?_eq_some : role? text = some item ↔ ∃ name,
    Valid ⟨.role, name, none⟩ ∧ text = name.toList ∧ item = ⟨.role, name, none⟩ := by
  simp only [role?, Option.ite_none_right_eq_some, Option.some.injEq, isName_iff]
  constructor
  · rintro ⟨named, rfl⟩
    exact ⟨String.ofList text, ⟨by simpa using named, rfl⟩, by simp, rfl⟩
  · rintro ⟨name, ⟨named, _⟩, rfl, rfl⟩
    exact ⟨named, by simp⟩

theorem exists_form (found : Item.parse? text = some item) : ∃ form, Spells form text ∧ form.item = item := by
  have trimmed := trimmed_trim text
  simp only [Item.parse?] at found
  split at found
  · next body inside =>
    obtain ⟨name, version, valid, rfl, rfl⟩ := recipe?_eq_some.mp found
    rw [body?_eq_some.mp inside] at trimmed
    exact ⟨.recipe name version, ⟨valid, trimmed⟩, rfl⟩
  · split at found
    · next body inside =>
      obtain ⟨name, valid, rfl, rfl⟩ := role?_eq_some.mp found
      rw [body?_eq_some.mp inside] at trimmed
      exact ⟨.role name, ⟨valid, trimmed⟩, rfl⟩
    · obtain ⟨name, version, valid, bare, rfl⟩ := recipe?_eq_some.mp found
      rw [bare] at trimmed
      exact ⟨.bare name version, ⟨valid, trimmed⟩, rfl⟩

private theorem body?_recipe_role (name : String) : body? "recipe" (Form.role name).text = none := by
  cases found : body? "recipe" (Form.role name).text with
  | none => rfl
  | some body =>
    have same := body?_eq_some.mp found
    simp [Form.text, inBrackets] at same

theorem Spells.parse? {form : Form} (spells : Spells form text) : Item.parse? text = some form.item := by
  obtain ⟨valid, trimmed⟩ := spells
  rw [Item.parse?, trimmed.trim_eq]
  cases form with
  | bare name version =>
    have plain := opening_notMem_bare valid
    simp only [body?_eq_none plain]
    exact recipe?_eq_some.mpr ⟨name, version, valid, rfl, rfl⟩
  | recipe name version =>
    have inside := body?_eq_some.mpr (Eq.refl (Form.recipe name version).text)
    simp only [inside]
    exact recipe?_eq_some.mpr ⟨name, version, valid, rfl, rfl⟩
  | role name =>
    have inside := body?_eq_some.mpr (Eq.refl (Form.role name).text)
    simp only [body?_recipe_role, inside]
    exact role?_eq_some.mpr ⟨name, valid, rfl, rfl⟩

/-- The reader gives an item exactly for its forms. -/
theorem parse?_eq_some : Item.parse? text = some item ↔ ∃ form, Spells form text ∧ form.item = item := by
  constructor
  · exact exists_form
  · intro ⟨form, spells, same⟩
    rw [spells.parse?, same]

private theorem parse?_eq_none : Item.parse? text = none ↔ ∀ form, ¬ Spells form text := by
  rw [Option.eq_none_iff_forall_ne_some]
  constructor
  · intro nothing form spells
    exact nothing form.item (parse?_eq_some.mpr ⟨form, spells, rfl⟩)
  · intro formless item found
    obtain ⟨form, spells, _⟩ := parse?_eq_some.mp found
    exact formless form spells

theorem Spells.unique {form other : Form} (spells : Spells form text) (also : Spells other text) : form = other := by
  have items : form.item = other.item := Option.some.inj (spells.parse?.symm.trans also.parse?)
  have texts : form.text = other.text := spells.2.trim_eq.symm.trans also.2.trim_eq
  exact Form.eq_of_text spells.1 also.1 items texts

theorem valid_of_parse? (found : Item.parse? text = some item) : Valid item := by
  obtain ⟨form, ⟨proper, _⟩, rfl⟩ := exists_form found
  exact proper

theorem parse_eq_ok {text : String} : Item.parse text = .ok item ↔ Item.parse? text.toList = some item := by
  rw [Item.parse]
  cases Item.parse? text.toList <;> simp

private theorem parse_eq_error {text : String} {error : Error} :
    Item.parse text = .error error ↔ Item.parse? text.toList = none ∧ error = .invalidRunListItem text := by
  rw [Item.parse]
  cases Item.parse? text.toList <;> simp [eq_comm]

/-- A text is an item exactly if it has one of the forms, which is then its only form. All other texts are reported as
they were given. -/
theorem parse_grammar (text : String) :
    (∀ item, Item.parse text = .ok item ↔
      ∃ form, (∀ other, Spells other text.toList ↔ other = form) ∧ form.item = item) ∧
    ∀ error, Item.parse text = .error error ↔
      (∀ form, ¬ Spells form text.toList) ∧ error = .invalidRunListItem text := by
  constructor
  · intro item
    rw [parse_eq_ok, parse?_eq_some]
    constructor
    · intro ⟨form, spells, same⟩
      refine ⟨form, fun other => ⟨fun also => also.unique spells, ?_⟩, same⟩
      rintro rfl
      exact spells
    · intro ⟨form, only, same⟩
      exact ⟨form, (only form).mpr rfl, same⟩
  · intro error
    rw [parse_eq_error, parse?_eq_none]

/-- Brackets that do not close belong to the name, which may hold none. An at sign is part of the name of a role. -/
example : Item.parse? "recipe[web@1.2".toList = none ∧
    Item.parse? "role[web@1]\n".toList = some ⟨.role, "web@1", none⟩ := by
  decide

end Reading

section Display

private theorem text_eq (item : Item) :
    item.text = inBrackets item.kind.word (item.name.toList ++ versionText item.version) := by
  obtain ⟨kind, name, version⟩ := item
  cases version <;> simp [Item.text, inBrackets, versionText]

private theorem trimmed_text (item : Item) : Trimmed item.text item.text := by
  refine ⟨⟨[], [], by simp⟩, ?_, ?_⟩
  · intro c leads
    cases kind : item.kind
    all_goals
      simp only [text_eq, inBrackets, kind, Kind.word] at leads
      obtain rfl : 'r' = c := by simpa using leads
      decide
  · intro c ends
    simp only [Item.text, List.getLast?_concat, Option.mem_def, Option.some.injEq] at ends
    subst ends
    decide

private theorem exists_shown {item : Item} (valid : Valid item) :
    ∃ form : Form, form.item = item ∧ form.text = item.text := by
  obtain ⟨kind, name, version⟩ := item
  cases kind with
  | recipe => exact ⟨.recipe name version, rfl, by simp [Form.text, text_eq, Kind.word]⟩
  | role =>
    obtain ⟨_, versionless⟩ := valid
    cases versionless
    exact ⟨.role name, rfl, by simp [Form.text, text_eq, Kind.word, versionText]⟩

private theorem parse?_text {item : Item} (valid : Valid item) : Item.parse? item.text = some item := by
  obtain ⟨form, rfl, shown⟩ := exists_shown valid
  have trimmed : Trimmed form.item.text form.text := by
    rw [shown]
    exact trimmed_text form.item
  exact Spells.parse? ⟨valid, trimmed⟩

theorem parse_toString {item : Item} (valid : Valid item) : Item.parse item.toString = .ok item := by
  rw [parse_eq_ok, Item.toString, String.toList_ofList, parse?_text valid]

/-- Reading undoes showing exactly for the valid items, and no text is read as any other item. So what a text is read as
is also read from the text that shows it, and texts of one item are those with one shown text. -/
theorem parse_toString_iff :
    (∀ item : Item, Item.parse item.toString = .ok item ↔ Valid item) ∧
    (∀ text item, Item.parse text = .ok item → Valid item ∧ Item.parse item.toString = .ok item) ∧
    ∀ first second item other, Item.parse first = .ok item → Item.parse second = .ok other →
      (item = other ↔ item.toString = other.toString) := by
  have valid {text : String} {item : Item} (read : Item.parse text = .ok item) : Valid item :=
    valid_of_parse? (parse_eq_ok.mp read)
  refine ⟨fun item => ⟨valid, parse_toString⟩, ?_, ?_⟩
  · intro text item read
    exact ⟨valid read, parse_toString (valid read)⟩
  · intro first second item other read also
    constructor
    · intro same
      rw [same]
    · intro shown
      have again := parse_toString (valid read)
      rw [shown, parse_toString (valid also)] at again
      exact (Except.ok.inj again).symm

def pinned : Item := ⟨.recipe, "web", some "1.2"⟩

def namesake : Item := ⟨.role, "web", none⟩

/-- An item that is shown as the text of another one. -/
def ambiguous : Item := ⟨.recipe, "web@1.2", none⟩

theorem parse_toString_iff_pinned :
    Item.parse "\tweb@1.2 " = .ok pinned ∧ Item.parse "role[web]" = .ok namesake ∧
      Valid pinned ∧ Item.parse pinned.toString = .ok pinned ∧
      (pinned = namesake ↔ pinned.toString = namesake.toString) ∧
      ambiguous.toString = pinned.toString ∧ Item.parse ambiguous.toString ≠ .ok ambiguous := by
  have bare : Item.parse "\tweb@1.2 " = .ok pinned := parse_eq_ok.mpr (by decide)
  have other : Item.parse "role[web]" = .ok namesake := parse_eq_ok.mpr (by decide)
  obtain ⟨valid, again⟩ := parse_toString_iff.2.1 _ _ bare
  exact ⟨bare, other, valid, again, parse_toString_iff.2.2 _ _ _ _ bare other, rfl,
    (parse_toString_iff.1 ambiguous).not.mpr (by decide)⟩

end Display

end ChefDsl.Proofs.RunListItems
