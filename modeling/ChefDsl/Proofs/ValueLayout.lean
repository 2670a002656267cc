import ChefDsl.Proofs.Nesting
import ChefDsl.Proofs.NumeralShape
import ChefDsl.Proofs.QuoteReading
import ChefDsl.Proofs.TextLines

/-! Printing with the depth at hand gives the same text as printing at column zero and shifting afterwards. No
literal has an empty line, so shifting is substitution of newlines, and the shifts of nested containers add up. -/

namespace ChefDsl.Proofs.ValueLayout
open TextLines Nesting Literal

def newline (depth : Nat) : Text := '\n' :: (Level.mk depth).indent

/-- Members on lines of their own, one level in, between brackets that stand at the given depth. -/
def enclosed (opening closing : Char) (depth : Nat) (members : List Text) : Text :=
  if members.isEmpty then [opening, closing]
  else
    [opening] ++ newline (depth + 1) ++ (',' :: newline (depth + 1)).intercalate members ++
      newline depth ++ [closing]

mutual

/-- The literal of a value whose first line stands at the given depth. -/
def layoutAt (depth : Nat) : Value → Text
  | .array items => enclosed '[' ']' depth (itemsAt (depth + 1) items)
  | .hash entries => enclosed '\x7b' '\x7d' depth (entriesAt (depth + 1) entries)
  | value => value.literal

def itemsAt (depth : Nat) : List Value → List Text
  | [] => []
  | item :: rest => layoutAt depth item :: itemsAt depth rest

def entriesAt (depth : Nat) : List (String × Value) → List Text
  | [] => []
  | (key, value) :: rest => (quote key.toList ++ Value.arrow ++ layoutAt depth value) :: entriesAt depth rest

end

def entryAt (depth : Nat) (entry : String × Value) : Text :=
  quote entry.1.toList ++ Value.arrow ++ layoutAt depth entry.2

theorem itemsAt_eq (depth : Nat) (items : List Value) : itemsAt depth items = items.map (layoutAt depth) := by
  induction items with
  | nil => rfl
  | cons item rest ih => rw [itemsAt, ih, List.map_cons]

theorem entriesAt_eq (depth : Nat) (entries : List (String × Value)) :
    entriesAt depth entries = entries.map (entryAt depth) := by
  induction entries with
  | nil => rfl
  | cons entry rest ih => rw [entriesAt, ih, List.map_cons, entryAt]

theorem newline_notMem_indent (level : Level) : '\n' ∉ level.indent := by
  simp [Level.indent]

private theorem indent_append (outer inner : Nat) :
    (Level.mk outer).indent ++ (Level.mk inner).indent = (Level.mk (outer + inner)).indent := by
  simp [Level.indent, Nat.mul_add]

private theorem shift_newline_at (outer inner : Nat) :
    shift (Level.mk outer).indent (newline inner) = newline (outer + inner) := by
  rw [newline, shift_newline, shift_plain _ (newline_notMem_indent _), indent_append, newline]

section Blocks

theorem shift_intercalate (indent separator : Text) (members : List Text) :
    shift indent (separator.intercalate members) =
      (shift indent separator).intercalate (members.map (shift indent)) := by
  induction members with
  | nil => rfl
  | cons member rest ih =>
    cases rest with
    | nil => simp
    | cons next rest =>
      rw [List.intercalate_cons_cons, shift_append, shift_append, ih]
      simp [List.intercalate_cons_cons]

/-- What stands in front of every member may be moved to the separators, but for the first one. -/
theorem intercalate_leading (separator leading : Text) {members : List Text} (nonempty : members ≠ []) :
    separator.intercalate (members.map (leading ++ ·)) = leading ++ (separator ++ leading).intercalate members := by
  induction members with
  | nil => contradiction
  | cons member rest ih =>
    cases rest with
    | nil => simp
    | cons next rest =>
      have tail := ih (by simp)
      simp only [List.map_cons, List.intercalate_cons_cons] at tail ⊢
      simp [tail]

private theorem shift_enclosed (outer inner : Nat) {opening closing : Char} (opens : opening ≠ '\n')
    (closes : closing ≠ '\n') (members : List Text) :
    shift (Level.mk outer).indent (enclosed opening closing inner members) =
      enclosed opening closing (outer + inner) (members.map (shift (Level.mk outer).indent)) := by
  have comma : shift (Level.mk outer).indent (',' :: newline (inner + 1)) = ',' :: newline (outer + inner + 1) :=
    congrArg (',' :: ·) (shift_newline_at outer (inner + 1))
  have brackets : shift (Level.mk outer).indent [opening, closing] = [opening, closing] :=
    shift_plain _ (by simp [Ne.symm opens, Ne.symm closes])
  simp only [enclosed, List.isEmpty_map]
  split
  · exact brackets
  · simp only [shift_append, shift_intercalate, shift_newline_at, comma]
    rw [shift_plain _ (by simpa using Ne.symm opens), shift_plain _ (by simpa using Ne.symm closes), Nat.add_assoc]

/-- The block of a container is printed at column zero. -/
theorem block_eq (opening closing : Char) {members : List Text} (solid : ∀ member ∈ members, Solid member) :
    Value.block opening closing members =
      enclosed opening closing 0 (members.map (shift (Level.mk 1).indent)) := by
  have indented : members.map (Text.indentLines (Level.mk 0).nested.indent) =
      (members.map (shift (Level.mk 1).indent)).map ((Level.mk 1).indent ++ ·) := by
    rw [List.map_map]
    exact List.map_congr_left fun member inside => indentLines_solid _ (solid member inside)
  by_cases empty : members = []
  · simp [empty, Value.block, enclosed]
  · have nonempty : members.map (shift (Level.mk 1).indent) ≠ [] := by simpa using empty
    simp only [Value.block, enclosed, indented, intercalate_leading _ _ nonempty, List.isEmpty_map]
    simp [empty, newline, Level.indent]

private theorem shift_block (depth : Nat) {opening closing : Char} (opens : opening ≠ '\n') (closes : closing ≠ '\n')
    {members : List Text} (solid : ∀ member ∈ members, Solid member) :
    shift (Level.mk depth).indent (Value.block opening closing members) =
      enclosed opening closing depth (members.map (shift (Level.mk (depth + 1)).indent)) := by
  rw [block_eq opening closing solid, shift_enclosed depth 0 opens closes, List.map_map, Nat.add_zero]
  congr 1
  apply List.map_congr_left
  intro member _
  rw [Function.comp_apply, shift_shift _ (newline_notMem_indent _), indent_append]

end Blocks

section Solidity

theorem solid_intercalate {members : List Text} (nonempty : members ≠ []) (solid : ∀ member ∈ members, Solid member) :
    Solid ([',', '\n'].intercalate members) := by
  induction members with
  | nil => contradiction
  | cons member rest ih =>
    have first := solid member (by simp)
    cases rest with
    | nil => simpa using first
    | cons next rest =>
      have tail := ih (by simp) fun other inside => solid other (by simp [inside])
      have comma : Solid [','] := (solid_plain (by decide)).mpr (by simp)
      have split : [',', '\n'].intercalate (member :: next :: rest) =
          (member ++ [',']) ++ '\n' :: [',', '\n'].intercalate (next :: rest) := by
        simp [List.intercalate_cons_cons]
      rw [split]
      exact solid_newline.mpr ⟨first.append comma, tail⟩

private theorem solid_indentLines {indent text : Text} (plain : '\n' ∉ indent) (solid : Solid text) :
    Solid (Text.indentLines indent text) := by
  intro line member
  rw [Text.lines_indentLines plain] at member
  obtain ⟨before, inside, rfl⟩ := List.mem_map.mp member
  simp [Text.indentLine, solid before inside]

private theorem solid_block {opening closing : Char} (opens : opening ≠ '\n') (closes : closing ≠ '\n')
    {members : List Text} (solid : ∀ member ∈ members, Solid member) : Solid (Value.block opening closing members) := by
  by_cases empty : members = []
  · rw [empty, Value.block]
    exact (solid_plain (by simp [Ne.symm opens, Ne.symm closes])).mpr (by simp)
  · have inner : Solid ([',', '\n'].intercalate (members.map (Text.indentLines (Level.mk 0).nested.indent))) := by
      apply solid_intercalate (by simpa using empty)
      intro line member
      obtain ⟨before, inside, rfl⟩ := List.mem_map.mp member
      exact solid_indentLines (newline_notMem_indent _) (solid before inside)
    have first : Solid [opening] := (solid_plain (by simpa using Ne.symm opens)).mpr (by simp)
    have last : Solid [closing] := (solid_plain (by simpa using Ne.symm closes)).mpr (by simp)
    have split : Value.block opening closing members = [opening] ++ '\n' ::
        ([',', '\n'].intercalate (members.map (Text.indentLines (Level.mk 0).nested.indent)) ++ '\n' :: [closing]) := by
      simp [Value.block, empty]
    rw [split]
    exact solid_newline.mpr ⟨first, solid_newline.mpr ⟨inner, last⟩⟩

end Solidity

section Scalars

/-- The characters that numbers are written with. -/
def isNumberChar (c : Char) : Bool := isDigit c || c == '.' || c == 'e' || c == '+' || c == '-'

private theorem isNumberChar_of_isDigit {c : Char} (digit : isDigit c = true) : isNumberChar c = true := by
  simp [isNumberChar, digit]

theorem isNumberChar_integerText {n : Int} {c : Char} (member : c ∈ Decimal.integerText n) : isNumberChar c = true := by
  unfold Decimal.integerText at member
  split at member
  · rcases List.mem_cons.mp member with rfl | digit
    · decide
    · exact isNumberChar_of_isDigit (NumeralShape.isDigit_toDigits digit)
  · exact isNumberChar_of_isDigit (NumeralShape.isDigit_toDigits member)

private theorem isNumberChar_positional {digits : Text} (digit : ∀ c ∈ digits, isDigit c = true) {point : Int}
    {c : Char} (member : c ∈ Decimal.positional digits point) : isNumberChar c = true := by
  have zero : isNumberChar '0' = true := by decide
  simp only [Decimal.positional, List.mem_append, List.mem_singleton] at member
  rcases member with (whole | rfl) | fraction
  · split at whole
    · rw [List.mem_singleton.mp whole]
      exact zero
    · rcases List.mem_append.mp whole with inside | padded
      · exact isNumberChar_of_isDigit (digit c (List.mem_of_mem_take inside))
      · rw [List.eq_of_mem_replicate padded]
        exact zero
  · decide
  · split at fraction
    · rw [List.mem_singleton.mp fraction]
      exact zero
    · rcases List.mem_append.mp fraction with padded | inside
      · rw [List.eq_of_mem_replicate padded]
        exact zero
      · exact isNumberChar_of_isDigit (digit c (List.mem_of_mem_drop inside))

private theorem isNumberChar_scientific {digits : Text} (digit : ∀ c ∈ digits, isDigit c = true) {plus : Bool}
    {point : Int} {c : Char} (member : c ∈ Decimal.scientific plus digits point) : isNumberChar c = true := by
  simp only [Decimal.scientific, List.mem_append, List.mem_singleton] at member
  rcases member with ((leading | rfl) | sign) | exponent
  · split at leading
    · rw [List.mem_singleton.mp leading]
      decide
    · exact isNumberChar_of_isDigit (digit c leading)
    · simp only [List.mem_cons] at leading
      rcases leading with rfl | rfl | inside
      · exact isNumberChar_of_isDigit (digit _ (by simp))
      · decide
      · exact isNumberChar_of_isDigit (digit c (by simp [inside]))
  · decide
  · split at sign
    · rw [List.mem_singleton.mp sign]
      decide
    · contradiction
  · exact isNumberChar_integerText exponent

theorem isNumberChar_text (layout : Decimal.Layout) (decimal : Decimal) {c : Char}
    (member : c ∈ decimal.text layout) : isNumberChar c = true := by
  have digit : ∀ c ∈ decimal.significand.1, isDigit c = true := by
    intro c inside
    have kept := (List.dropWhile_sublist _).mem (List.mem_reverse.mp inside)
    exact NumeralShape.isDigit_toDigits (n := decimal.digits) (List.mem_reverse.mp kept)
  simp only [Decimal.text] at member
  split at member
  · exact isNumberChar_positional digit member
  · exact isNumberChar_scientific digit member

theorem mem_floatText {x : Binary64} {c : Char} (member : c ∈ Value.floatText x) :
    isNumberChar c = true ∨ c ∈ "Float::NAN".toList ∨ c ∈ "Float::INFINITY".toList := by
  unfold Value.floatText at member
  split at member
  · exact Or.inr (Or.inl member)
  · rcases List.mem_append.mp member with sign | magnitude
    · split at sign
      · rw [List.mem_singleton.mp sign]
        decide
      · contradiction
    · split at magnitude
      · exact Or.inr (Or.inr magnitude)
      · exact Or.inl (isNumberChar_text Value.floatLayout _ magnitude)

private theorem newline_notMem_floatText (x : Binary64) : '\n' ∉ Value.floatText x := by
  intro member
  rcases mem_floatText member with number | undefined | infinity
  · contradiction
  · exact absurd undefined (by decide)
  · exact absurd infinity (by decide)

theorem isNumberChar_floatText {x : Binary64} (finite : x.isFinite = true) {c : Char}
    (member : c ∈ Value.floatText x) : isNumberChar c = true := by
  rw [NumeralShape.floatText_finite finite] at member
  rcases List.mem_append.mp member with sign | magnitude
  · split at sign
    · rw [List.mem_singleton.mp sign]
      decide
    · contradiction
  · exact isNumberChar_text Value.floatLayout _ magnitude

theorem text_ne_nil (layout : Decimal.Layout) (decimal : Decimal) : decimal.text layout ≠ [] := by
  simp only [Decimal.text]
  split
  · simp [Decimal.positional]
  · simp [Decimal.scientific]

theorem floatText_ne_nil (x : Binary64) : Value.floatText x ≠ [] := by
  have shortest : Value.floatLayout.shortest x.magnitude ≠ [] := text_ne_nil Value.floatLayout _
  unfold Value.floatText
  cases x.isNaN with
  | true => simp
  | false =>
    cases x.isInfinite with
    | true => simp
    | false => simp [shortest]

private theorem newline_notMem_integerText (n : Int) : '\n' ∉ Decimal.integerText n := by
  intro member
  have number := isNumberChar_integerText member
  contradiction

theorem integerText_ne_nil (n : Int) : Decimal.integerText n ≠ [] := by
  unfold Decimal.integerText
  split <;> simp

end Scalars

section Literals

private theorem solid_quote (text : Text) : Solid (quote text) := by
  refine (solid_plain (QuoteReading.newline_notMem_quote text)).mpr ?_
  obtain ⟨body, single | double⟩ := QuoteReading.quote_eq_cons text
  · simp [single]
  · simp [double]

private theorem solid_entry {key literal : Text} (solid : Solid literal) :
    Solid (quote key ++ Value.arrow ++ literal) := by
  have arrow : Solid Value.arrow := (solid_plain (by decide)).mpr (by decide)
  exact ((solid_quote key).append arrow).append solid

theorem solid_literal (value : Value) : Solid value.literal := by
  induction value with
  | nil => exact (solid_plain (by decide)).mpr (by decide)
  | bool value => cases value <;> exact (solid_plain (by decide)).mpr (by decide)
  | integer n => exact (solid_plain (newline_notMem_integerText _)).mpr (integerText_ne_nil _)
  | unsigned n => exact (solid_plain (newline_notMem_integerText n.toNat)).mpr (integerText_ne_nil n.toNat)
  | float x => exact (solid_plain (newline_notMem_floatText x)).mpr (floatText_ne_nil x)
  | string text => exact solid_quote text.toList
  | array items ih =>
    rw [Value.literal, literals_eq]
    apply solid_block (by decide) (by decide)
    intro literal member
    obtain ⟨item, inside, rfl⟩ := List.mem_map.mp member
    exact ih item inside
  | hash entries ih =>
    rw [Value.literal, pairs_eq]
    apply solid_block (by decide) (by decide)
    intro literal member
    obtain ⟨entry, inside, rfl⟩ := List.mem_map.mp member
    exact solid_entry (ih entry inside)

/-- Shifting a literal to a depth gives what is printed there. -/
theorem shift_literal (value : Value) (depth : Nat) :
    shift (Level.mk depth).indent value.literal = layoutAt depth value := by
  induction value generalizing depth with
  | nil => exact shift_plain _ (by decide)
  | bool value => cases value <;> exact shift_plain _ (by decide)
  | integer n => exact shift_plain _ (newline_notMem_integerText _)
  | unsigned n => exact shift_plain _ (newline_notMem_integerText n.toNat)
  | float x => exact shift_plain _ (newline_notMem_floatText x)
  | string text => exact shift_plain _ (QuoteReading.newline_notMem_quote text.toList)
  | array items ih =>
    have solid : ∀ literal ∈ items.map Value.literal, Solid literal := by
      intro literal member
      obtain ⟨item, _, rfl⟩ := List.mem_map.mp member
      exact solid_literal item
    rw [Value.literal, literals_eq, shift_block depth (by decide) (by decide) solid, layoutAt, itemsAt_eq, List.map_map]
    exact congrArg _ (List.map_congr_left fun item inside => ih item inside (depth + 1))
  | hash entries ih =>
    have solid : ∀ literal ∈ entries.map fun entry => quote entry.1.toList ++ Value.arrow ++ entry.2.literal,
        Solid literal := by
      intro literal member
      obtain ⟨entry, _, rfl⟩ := List.mem_map.mp member
      exact solid_entry (solid_literal entry.2)
    have arrow : '\n' ∉ Value.arrow := by decide
    rw [Value.literal, pairs_eq, shift_block depth (by decide) (by decide) solid, layoutAt, entriesAt_eq, List.map_map]
    apply congrArg
    apply List.map_congr_left
    intro entry inside
    rw [Function.comp_apply, shift_append, shift_append, shift_plain _ (QuoteReading.newline_notMem_quote _),
      shift_plain _ arrow, ih entry inside, entryAt]

/-- The literal of a value at a level is its literal printed at that depth. -/
theorem format_eq (value : Value) (level : Level) : value.format level = layoutAt level.depth value := by
  rw [Value.format, indentFollowing_solid _ (solid_literal value)]
  exact shift_literal value level.depth

end Literals

end ChefDsl.Proofs.ValueLayout
