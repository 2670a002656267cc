import ChefDsl.Text.Class

/-! How spans, lines and indentation behave when texts are put together. Indentation treats empty lines apart from the
others, so it distributes over every newline but not over every character. On a text without empty lines it is
plain substitution: each newline takes the indent behind it. Everything the DSL prints is such a text. -/

namespace ChefDsl.Proofs.TextLines
open Text

section Spans
variable {p : Char → Bool} {inside rest : Text}

theorem takeWhile_boundary (all : ∀ c ∈ inside, p c = true) (stop : ∀ c ∈ rest.head?, p c = false) :
    (inside ++ rest).takeWhile p = inside := by
  rw [List.takeWhile_append_of_pos all]
  cases rest with
  | nil => simp
  | cons c rest => simp [stop c rfl]

theorem dropWhile_boundary (all : ∀ c ∈ inside, p c = true) (stop : ∀ c ∈ rest.head?, p c = false) :
    (inside ++ rest).dropWhile p = rest := by
  rw [List.dropWhile_append_of_pos all]
  cases rest with
  | nil => rfl
  | cons c rest => simp [stop c rfl]

/-- A text without a mark is one span up to it. -/
theorem bne_of_notMem {mark : Char} {text : Text} (bare : mark ∉ text) : ∀ c ∈ text, (c != mark) = true := by
  intro c member
  exact bne_iff_ne.mpr fun same => bare (same ▸ member)

theorem notMem_takeWhile (c : Char) (text : Text) : c ∉ text.takeWhile (· != c) := by
  intro member
  have passes := List.all_eq_true.mp List.all_takeWhile c member
  simp at passes

theorem dropWhile_mark (c : Char) (text : Text) :
    text.dropWhile (· != c) = [] ∨ ∃ behind, text.dropWhile (· != c) = c :: behind := by
  have stops := List.head?_dropWhile_not (· != c) text
  cases rest : text.dropWhile (· != c) with
  | nil => exact Or.inl rfl
  | cons d behind =>
    rw [rest] at stops
    obtain rfl : d = c := by simpa using stops
    exact Or.inr ⟨behind, rfl⟩

end Spans

theorem lines_plain {text : Text} (plain : '\n' ∉ text) : lines text = [text] :=
  List.splitOn_eq_singleton plain

theorem lines_newline (first second : Text) :
    lines (first ++ '\n' :: second) = lines first ++ lines second :=
  List.splitOn_append_cons_self first second

/-- A text is one line, or a line in front of a shorter text. -/
theorem byLines {motive : Text → Prop} (last : ∀ line, '\n' ∉ line → motive line)
    (more : ∀ line rest, '\n' ∉ line → motive rest → motive (line ++ '\n' :: rest)) (text : Text) :
    motive text := by
  by_cases plain : '\n' ∈ text
  · obtain ⟨line, rest, split, first⟩ := List.eq_append_cons_of_mem plain
    rw [split]
    exact more line rest first (byLines last more rest)
  · exact last text plain
termination_by text.length
decreasing_by
  simp only [split, List.length_append, List.length_cons]
  omega

theorem ofLines_cons (line : Text) {rest : List Text} (more : rest ≠ []) :
    ofLines (line :: rest) = line ++ '\n' :: ofLines rest := by
  simp [ofLines, List.intercalate_cons_of_ne_nil more]

theorem ofLines_append {first second : List Text} (before : first ≠ []) (after : second ≠ []) :
    ofLines (first ++ second) = ofLines first ++ '\n' :: ofLines second := by
  induction first with
  | nil => contradiction
  | cons line rest ih =>
    cases rest with
    | nil => simpa [ofLines] using ofLines_cons line after
    | cons next rest =>
      rw [List.cons_append, ofLines_cons line (by simp), ofLines_cons line (by simp), ih (by simp)]
      simp

theorem indentLines_plain (indent : Text) {text : Text} (plain : '\n' ∉ text) :
    indentLines indent text = indentLine indent text := by
  simp [indentLines_eq, lines_plain plain, ofLines]

private theorem indentLines_newline (indent first second : Text) :
    indentLines indent (first ++ '\n' :: second) = indentLines indent first ++ '\n' :: indentLines indent second := by
  simp only [indentLines_eq, lines_newline, List.map_append]
  exact ofLines_append (by simp [lines_ne_nil]) (by simp [lines_ne_nil])

private theorem indentFollowing_plain (indent : Text) {text : Text} (plain : '\n' ∉ text) :
    indentFollowing indent text = text := by
  simp [indentFollowing_eq (lines_plain plain), ofLines]

private theorem indentFollowing_newline (indent first second : Text) :
    indentFollowing indent (first ++ '\n' :: second) =
      indentFollowing indent first ++ '\n' :: indentLines indent second := by
  obtain ⟨line, rest, split⟩ := List.exists_cons_of_ne_nil (lines_ne_nil first)
  have joined : lines (first ++ '\n' :: second) = line :: (rest ++ lines second) := by
    rw [lines_newline, split, List.cons_append]
  rw [indentFollowing_eq joined, indentFollowing_eq split, indentLines_eq, List.map_append, ← List.cons_append]
  exact ofLines_append (by simp) (by simp [lines_ne_nil])

/-- No line of the text is empty. -/
def Solid (text : Text) : Prop := ∀ line ∈ lines text, line ≠ []

theorem solid_plain {text : Text} (plain : '\n' ∉ text) : Solid text ↔ text ≠ [] := by
  simp [Solid, lines_plain plain]

theorem solid_newline {first second : Text} : Solid (first ++ '\n' :: second) ↔ Solid first ∧ Solid second := by
  simp only [Solid, lines_newline, List.mem_append]
  constructor
  · intro solid
    exact ⟨fun line member => solid line (Or.inl member), fun line member => solid line (Or.inr member)⟩
  · rintro ⟨before, after⟩ line (member | member)
    · exact before line member
    · exact after line member

theorem Solid.ne_nil {text : Text} (solid : Solid text) : text ≠ [] := by
  rintro rfl
  exact solid [] (by simp [lines, List.splitOn_nil]) rfl

theorem Solid.append {first second : Text} (before : Solid first) (after : Solid second) :
    Solid (first ++ second) := by
  induction first using byLines with
  | last line plain =>
    have nonempty := before.ne_nil
    induction second using byLines with
    | last other single => exact (solid_plain (by simp [plain, single])).mpr (by simp [nonempty])
    | more other rest single _ =>
      rw [← List.append_assoc, solid_newline]
      exact ⟨(solid_plain (by simp [plain, single])).mpr (by simp [nonempty]), (solid_newline.mp after).2⟩
  | more line rest plain ih =>
    obtain ⟨head, tail⟩ := solid_newline.mp before
    rw [List.append_assoc, List.cons_append, solid_newline]
    exact ⟨head, ih tail⟩

/-- Puts the indent behind every newline. -/
def shift (indent text : Text) : Text := text.flatMap fun c => if c = '\n' then '\n' :: indent else [c]

@[simp] theorem shift_append (indent first second : Text) :
    shift indent (first ++ second) = shift indent first ++ shift indent second :=
  List.flatMap_append

@[simp] theorem shift_newline (indent text : Text) :
    shift indent ('\n' :: text) = '\n' :: (indent ++ shift indent text) := by
  simp [shift]

theorem shift_plain (indent : Text) {text : Text} (plain : '\n' ∉ text) : shift indent text = text := by
  induction text with
  | nil => rfl
  | cons c rest ih =>
    simp only [List.mem_cons, not_or] at plain
    have tail := ih plain.2
    simp only [shift] at tail
    simp [shift, Ne.symm plain.1, tail]

theorem shift_nothing (text : Text) : shift [] text = text := by
  induction text using byLines with
  | last line single => exact shift_plain [] single
  | more line rest single ih => simp [shift_plain _ single, ih]

theorem shift_shift (outer : Text) {inner : Text} (plain : '\n' ∉ inner) (text : Text) :
    shift outer (shift inner text) = shift (outer ++ inner) text := by
  induction text using byLines with
  | last line single => simp [shift_plain _ single]
  | more line rest single ih => simp [shift_plain _ single, shift_plain _ plain, ih]

theorem indentLines_solid (indent : Text) {text : Text} (solid : Solid text) :
    indentLines indent text = indent ++ shift indent text := by
  induction text using byLines with
  | last line plain => simp [indentLines_plain, plain, indentLine, solid.ne_nil, shift_plain]
  | more line rest plain ih =>
    obtain ⟨head, tail⟩ := solid_newline.mp solid
    simp [indentLines_newline, indentLines_plain, plain, indentLine, head.ne_nil, shift_plain, ih tail]

theorem indentFollowing_solid (indent : Text) {text : Text} (solid : Solid text) :
    indentFollowing indent text = shift indent text := by
  induction text using byLines with
  | last line plain => rw [indentFollowing_plain indent plain, shift_plain indent plain]
  | more line rest plain ih =>
    have tail := indentLines_solid indent (solid_newline.mp solid).2
    simp [indentFollowing_newline, indentFollowing_plain, plain, shift_plain, tail]

/-- Blanks behind a character that is none are all that is cut off. -/
theorem trimEnd_blanks (text : Text) {c : Char} (visible : isBlank c = false) {blanks : Text}
    (blank : ∀ b ∈ blanks, isBlank b = true) : trimEnd (text ++ [c] ++ blanks) = text ++ [c] := by
  have dropped : (blanks.reverse ++ c :: text.reverse).dropWhile isBlank = c :: text.reverse := by
    rw [List.dropWhile_append_of_pos (by simpa using blank), List.dropWhile_cons_of_neg (by simp [visible])]
  simp [trimEnd, dropped]

section Trimming
variable {text inner : Text}

/-- A text lies between blanks and neither begins nor ends with one. -/
structure Trimmed (text inner : Text) : Prop where
  around : ∃ before after, text = before ++ (inner ++ after) ∧ (∀ c ∈ before, isBlank c = true) ∧
    ∀ c ∈ after, isBlank c = true
  first : ∀ c ∈ inner.head?, isBlank c = false
  last : ∀ c ∈ inner.getLast?, isBlank c = false

private theorem isBlank_of_head_dropWhile (text : Text) {c : Char} (leads : (text.dropWhile isBlank).head? = some c) :
    isBlank c = false := by
  have stops := List.head?_dropWhile_not isBlank text
  rw [leads] at stops
  simpa using stops

theorem exists_trimEnd (text : Text) : ∃ after, text = trimEnd text ++ after ∧ ∀ c ∈ after, isBlank c = true := by
  refine ⟨(text.reverse.takeWhile isBlank).reverse, ?_, ?_⟩
  · rw [trimEnd, ← List.reverse_append, List.takeWhile_append_dropWhile, List.reverse_reverse]
  · intro c member
    exact List.all_eq_true.mp List.all_takeWhile c (List.mem_reverse.mp member)

theorem isBlank_of_getLast_trimEnd (text : Text) {c : Char} (ends : c ∈ (trimEnd text).getLast?) :
    isBlank c = false := by
  rw [trimEnd, List.getLast?_reverse] at ends
  exact isBlank_of_head_dropWhile text.reverse ends

theorem trimmed_trim (text : Text) : Trimmed text text.trim := by
  obtain ⟨after, split, blank⟩ := exists_trimEnd (text.dropWhile isBlank)
  refine ⟨⟨text.takeWhile isBlank, after, ?_, List.all_eq_true.mp List.all_takeWhile, blank⟩, ?_, ?_⟩
  · rw [trim, ← split, List.takeWhile_append_dropWhile]
  · intro c leads
    have begins : (text.trim ++ after).head? = some c := by
      rw [List.head?_append, leads]
      rfl
    rw [trim, ← split] at begins
    exact isBlank_of_head_dropWhile text begins
  · intro c ends
    exact isBlank_of_getLast_trimEnd _ ends

theorem Trimmed.trim_eq (trimmed : Trimmed text inner) : text.trim = inner := by
  obtain ⟨⟨before, after, rfl, leading, trailing⟩, first, last⟩ := trimmed
  rcases List.eq_nil_or_concat inner with rfl | ⟨inside, c, same⟩
  · have blank : ∀ c ∈ before ++ after, isBlank c = true := List.forall_mem_append.mpr ⟨leading, trailing⟩
    have nothing : ((before ++ after) ++ []).dropWhile isBlank = [] := dropWhile_boundary blank (by simp)
    rw [List.append_nil] at nothing
    rw [List.nil_append, trim, nothing]
    rfl
  · rw [List.concat_eq_append] at same
    subst same
    have starts : ∀ d ∈ (inside ++ [c] ++ after).head?, isBlank d = false := by
      intro d leads
      apply first
      cases inside with
      | nil => exact leads
      | cons d inside => exact leads
    rw [trim, dropWhile_boundary leading starts]
    exact trimEnd_blanks inside (last c (by simp)) trailing

end Trimming

end ChefDsl.Proofs.TextLines
