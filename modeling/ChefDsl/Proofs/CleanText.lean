import ChefDsl.Proofs.Outline

/-! Files hold no control characters but the ends of lines, and no line of a file ends in a blank. Quoted strings name
control characters and end in a quote, so this is a matter of the layout: whatever ends in a blank has the rest of its
line behind it, and an indent is only put in front of something. -/

namespace ChefDsl.Proofs.CleanText
open TextLines ValueLayout Nesting Results SourceText Outline Source Literal

def Shown (text : Text) : Prop := ∀ c ∈ text, isControl c = false

instance (text : Text) : Decidable (Shown text) :=
  decidable_of_iff (text.any isControl = false) (by simp [Shown])

structure CleanLine (line : Text) : Prop where
  shown : Shown line
  ends : ∀ c ∈ line.getLast?, isBlank c = false

instance (line : Text) : Decidable (CleanLine line) :=
  decidable_of_iff (Shown line ∧ line.getLast?.any isBlank = false) <| by
    rw [Option.any_eq_false]
    exact ⟨fun both => ⟨both.1, both.2⟩, fun clean => ⟨clean.shown, clean.ends⟩⟩

/-- No line of the text holds a control character or ends in a blank. -/
def Clean (text : Text) : Prop := ∀ line ∈ text.lines, CleanLine line

section Lines
variable {first second front line text : Text}

theorem Shown.append (before : Shown first) (after : Shown second) : Shown (first ++ second) :=
  List.forall_mem_append.mpr ⟨before, after⟩

theorem Shown.plain (shown : Shown text) : '\n' ∉ text := by
  intro member
  have visible := shown '\n' member
  contradiction

private theorem clean_plain (plain : '\n' ∉ text) : Clean text ↔ CleanLine text := by
  simp [Clean, lines_plain plain]

private theorem clean_newline : Clean (first ++ '\n' :: second) ↔ Clean first ∧ Clean second := by
  rw [Clean, lines_newline, List.forall_mem_append]
  rfl

private theorem CleanLine.clean (clean : CleanLine line) : Clean line := (clean_plain clean.shown.plain).mpr clean

/-- What has the rest of a line behind it may end in blanks. -/
theorem CleanLine.behind (shown : Shown front) (nonempty : line ≠ []) (clean : CleanLine line) :
    CleanLine (front ++ line) := by
  refine ⟨shown.append clean.shown, ?_⟩
  rw [List.getLast?_append_of_ne_nil front nonempty]
  exact clean.ends

theorem Clean.behind (shown : Shown front) (solid : Solid text) (clean : Clean text) : Clean (front ++ text) := by
  induction text using byLines with
  | last line plain => exact (((clean_plain plain).mp clean).behind shown solid.ne_nil).clean
  | more line rest plain _ =>
    obtain ⟨here, later⟩ := clean_newline.mp clean
    rw [← List.append_assoc, clean_newline]
    exact ⟨(((clean_plain plain).mp here).behind shown (solid_newline.mp solid).1.ne_nil).clean, later⟩

theorem Clean.append (before : Clean first) (solid : Solid second) (after : Clean second) :
    Clean (first ++ second) := by
  -- Only the last line of the first text meets the second one.
  induction first using byLines with
  | last line plain => exact after.behind ((clean_plain plain).mp before).shown solid
  | more line rest plain ih =>
    obtain ⟨here, later⟩ := clean_newline.mp before
    rw [List.append_assoc, List.cons_append, clean_newline]
    exact ⟨here, ih later⟩

private theorem clean_indentLines {indent : Text} (shown : Shown indent) (clean : Clean text) :
    Clean (Text.indentLines indent text) := by
  intro line member
  rw [Text.lines_indentLines shown.plain] at member
  obtain ⟨before, inside, rfl⟩ := List.mem_map.mp member
  unfold Text.indentLine
  split
  · exact clean before inside
  · next filled => exact (clean before inside).behind shown (by simpa using filled)

private theorem clean_intercalate {members : List Text} (clean : ∀ member ∈ members, Clean member) :
    Clean ([',', '\n'].intercalate members) := by
  induction members with
  | nil => exact (by decide : CleanLine []).clean
  | cons member rest ih =>
    have first := clean member (by simp)
    cases rest with
    | nil => simpa using first
    | cons next rest =>
      have tail := ih fun other inside => clean other (by simp [inside])
      have comma : Clean [','] := (by decide : CleanLine [',']).clean
      have split : [',', '\n'].intercalate (member :: next :: rest) =
          (member ++ [',']) ++ '\n' :: [',', '\n'].intercalate (next :: rest) := by
        simp [List.intercalate_cons_cons]
      rw [split]
      exact clean_newline.mpr ⟨first.append ((solid_plain (by decide)).mpr (by simp)) comma, tail⟩

private theorem shown_indent (level : Level) : Shown level.indent := by
  intro c member
  rw [List.eq_of_mem_replicate member]
  rfl

/-- A control character in a clean text ends a line. -/
theorem Clean.eq_newline (clean : Clean text) {c : Char} (member : c ∈ text) (control : isControl c = true) :
    c = '\n' := by
  induction text using byLines with
  | last line plain =>
    have shown := ((clean_plain plain).mp clean).shown c member
    rw [shown] at control
    contradiction
  | more line rest plain ih =>
    obtain ⟨here, later⟩ := clean_newline.mp clean
    rcases List.mem_append.mp member with inside | behind
    · have shown := ((clean_plain plain).mp here).shown c inside
      rw [shown] at control
      contradiction
    · rcases List.mem_cons.mp behind with newline | more
      · exact newline
      · exact ih later more

end Lines

section Values

private theorem clean_block {opening closing : Char} (opens : CleanLine [opening]) (closes : CleanLine [closing])
    {members : List Text} (clean : ∀ member ∈ members, Clean member) :
    Clean (Value.block opening closing members) := by
  by_cases empty : members = []
  · rw [empty, Value.block]
    exact (closes.behind opens.shown (by simp)).clean
  · have inner : Clean ([',', '\n'].intercalate (members.map (Text.indentLines (Level.mk 0).nested.indent))) := by
      apply clean_intercalate
      intro text member
      obtain ⟨before, inside, rfl⟩ := List.mem_map.mp member
      exact clean_indentLines (shown_indent _) (clean before inside)
    have split : Value.block opening closing members = [opening] ++ '\n' ::
        ([',', '\n'].intercalate (members.map (Text.indentLines (Level.mk 0).nested.indent)) ++ '\n' :: [closing]) := by
      simp [Value.block, empty]
    rw [split]
    exact clean_newline.mpr ⟨opens.clean, clean_newline.mpr ⟨inner, closes.clean⟩⟩

private theorem isControl_ascii {c : Char} (low : 0x20 ≤ c.toNat) (high : c.toNat < 0x7F) : isControl c = false := by
  simp only [isControl, Bool.or_eq_false_iff, Bool.and_eq_false_iff, decide_eq_false_iff_not]
  omega

private theorem visible_of_isNumberChar {c : Char} (number : isNumberChar c = true) :
    isControl c = false ∧ isBlank c = false := by
  simp only [isNumberChar, Bool.or_eq_true, beq_iff_eq] at number
  rcases number with (((digit | rfl) | rfl) | rfl) | rfl
  · simp only [isDigit, Bool.and_eq_true, decide_eq_true_eq] at digit
    have low : 48 ≤ c.toNat := digit.1
    have high : c.toNat ≤ 57 := digit.2
    refine ⟨isControl_ascii (by omega) (by omega), ?_⟩
    simp only [isBlank, Bool.or_eq_false_iff, Bool.and_eq_false_iff, decide_eq_false_iff_not, beq_eq_false_iff_ne]
    omega
  all_goals decide

private theorem cleanLine_number {text : Text} (number : ∀ c ∈ text, isNumberChar c = true) : CleanLine text :=
  ⟨fun c member => (visible_of_isNumberChar (number c member)).1,
    fun c last => (visible_of_isNumberChar (number c (List.mem_of_getLast? last))).2⟩

private theorem cleanLine_floatText (x : Binary64) : CleanLine (Value.floatText x) := by
  have sign : Shown (if x.isNegative then ['-'] else []) := by
    cases x.isNegative <;> decide
  unfold Value.floatText
  cases x.isNaN with
  | true => exact (by decide : CleanLine "Float::NAN".toList)
  | false =>
    cases x.isInfinite with
    | true => exact (by decide : CleanLine "Float::INFINITY".toList).behind sign (by simp)
    | false =>
      have shortest : CleanLine (Value.floatLayout.shortest x.magnitude) :=
        cleanLine_number fun c member => isNumberChar_text Value.floatLayout _ member
      exact shortest.behind sign (text_ne_nil Value.floatLayout _)

/-- A quoted string ends in its quote, whatever the string ends in. -/
theorem cleanLine_quote (text : Text) : CleanLine (quote text) := by
  refine ⟨fun c member => QuoteReading.isControl_quote member, ?_⟩
  intro c last
  unfold quote at last
  split at last
  · rw [doubleQuoted, List.getLast?_append_of_ne_nil _ (by simp)] at last
    cases last
    rfl
  · rw [singleQuoted, List.getLast?_append_of_ne_nil _ (by simp)] at last
    cases last
    rfl

private theorem clean_literal (value : Value) : Clean value.literal := by
  induction value with
  | nil => exact (by decide : CleanLine "nil".toList).clean
  | bool value => cases value with
    | true => exact (by decide : CleanLine "true".toList).clean
    | false => exact (by decide : CleanLine "false".toList).clean
  | integer n => exact (cleanLine_number fun c member => isNumberChar_integerText member).clean
  | unsigned n => exact (cleanLine_number fun c member => isNumberChar_integerText (n := n.toNat) member).clean
  | float x => exact (cleanLine_floatText x).clean
  | string text => exact (cleanLine_quote text.toList).clean
  | array items ih =>
    rw [Value.literal, literals_eq]
    apply clean_block (by decide) (by decide)
    exact List.forall_mem_map.mpr ih
  | hash entries ih =>
    rw [Value.literal, pairs_eq]
    apply clean_block (by decide) (by decide)
    rw [List.forall_mem_map]
    intro entry inside
    have arrow : Shown Value.arrow := by decide
    exact (ih entry inside).behind ((cleanLine_quote _).shown.append arrow) (solid_literal entry.2)

end Values

section Files

private theorem clean_argumentsText (arguments : List Value) : Clean (argumentsText arguments) := by
  rw [← indentLines_arguments]
  apply clean_indentLines (shown_indent _)
  apply clean_intercalate
  rw [List.forall_mem_map]
  intro value _
  exact clean_literal value

private theorem bounds_of_isAlpha {c : Char} (letter : c.isAlpha = true) : 65 ≤ c.toNat ∧ c.toNat ≤ 122 := by
  rcases (Bool.or_eq_true _ _).mp (show (c.isUpper || c.isLower) = true from letter) with capital | small
  · have both : 65 ≤ c.toNat ∧ c.toNat ≤ 90 := of_decide_eq_true capital
    omega
  · have sides := (Bool.and_eq_true _ _).mp
      (show (decide (c.val ≥ 'a'.val) && decide (c.val ≤ 'z'.val)) = true from small)
    have low : 97 ≤ c.toNat := of_decide_eq_true sides.1
    have high : c.toNat ≤ 122 := of_decide_eq_true sides.2
    omega

private theorem shown_methodName {method : String} (named : isMethodName method = true) : Shown method.toList := by
  intro c member
  simp only [isMethodName, Bool.and_eq_true, List.all_eq_true, Bool.or_eq_true, beq_iff_eq] at named
  rcases named.2 c member with letter | rfl
  · have bounds := bounds_of_isAlpha letter
    exact isControl_ascii (by omega) (by omega)
  · rfl

private theorem clean_callText {method : String} (named : isMethodName method = true) (arguments : List Value) :
    Clean (callText method arguments) := by
  intro line member
  rw [lines_callText named, List.mem_append, List.mem_append] at member
  rcases member with first | inner | last
  · rw [List.mem_singleton.mp first]
    exact (by decide : CleanLine ['(']).behind (shown_methodName named) (by simp)
  · exact clean_argumentsText arguments line inner
  · rw [List.mem_singleton.mp last]
    decide

private theorem clean_fileText {blocks : List Block} (nonempty : blocks ≠ [])
    (writable : blocks.all Block.isWritable = true) :
    Clean (fileText blocks) := by
  intro line member
  rw [lines_fileText nonempty] at member
  obtain ⟨block, inside, among⟩ := List.mem_flatMap.mp member
  cases block with
  | heading => exact (by decide : CleanLine Role.header).clean line among
  | blank => exact (by decide : CleanLine []).clean line among
  | call method arguments =>
    have proper := List.all_eq_true.mp writable _ inside
    simp only [Block.isWritable, Bool.and_eq_true] at proper
    exact clean_callText proper.1 arguments line among

end Files

/-- The file of an entity is clean, and it ends in the parenthesis of its last call. Two ends of lines stand behind
that before the file is finished, and finishing takes nothing else away. -/
theorem source_clean (entity : Entity) :
    ∃ writer text, Writer.empty.apply entity.draft = (.ok (), writer) ∧ entity.source = .ok text ∧
      text = writer.finish ∧ writer.text = text ++ ['\n', '\n'] ∧
      (∀ c ∈ text, isControl c = true → c = '\n') ∧
      (∀ line ∈ text.lines, ∀ c ∈ line.getLast?, isBlank c = false) ∧
      text.getLast? = some ')' := by
  have clean := clean_fileText (entityBlocks_ne_nil entity) (isWritable_entityBlocks entity)
  refine ⟨_, _, adds_draft entity Writer.empty, entity_source entity, (finish_draft entity).symm, rfl, ?_, ?_, ?_⟩
  · exact fun c member => clean.eq_newline member
  · exact fun line member => (clean line member).ends
  · obtain ⟨blocks, method, arguments, split⟩ := entityBlocks_ends entity
    obtain ⟨text, ends⟩ := fileText_ends blocks method arguments
    rw [split, ends, List.getLast?_append_of_ne_nil text (by simp)]
    rfl

end ChefDsl.Proofs.CleanText
