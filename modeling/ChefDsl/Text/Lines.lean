/-! A text is the list of its characters. Newlines separate its lines, so every text has at least one line
and joining the lines gives the text back. Indentation works line by line and leaves empty lines empty. -/

namespace ChefDsl

/-- Text under construction or inspection. Names and keys at rest are strings. -/
abbrev Text := List Char

namespace Text

/-- The length of the UTF-8 form. -/
def byteSize (text : Text) : Nat := (String.ofList text).utf8ByteSize

def lines (text : Text) : List Text := text.splitOn '\n'

def ofLines (lines : List Text) : Text := ['\n'].intercalate lines

theorem ofLines_lines (text : Text) : ofLines (lines text) = text :=
  List.intercalate_splitOn '\n'

theorem lines_ofLines {parts : List Text} (single : ∀ line ∈ parts, '\n' ∉ line) (nonempty : parts ≠ []) :
    lines (ofLines parts) = parts :=
  List.splitOn_intercalate '\n' single nonempty

/-- An empty line takes no indent, so indentation never puts blanks at the end of a line. -/
def indentLine (indent line : Text) : Text :=
  if line.isEmpty then line else indent ++ line

/-- Shifts the lines from the one numbered `first` on. For an empty indent nothing has to be taken apart. -/
def indentFrom (first : Nat) (indent text : Text) : Text :=
  if indent.isEmpty then text
  else ofLines ((lines text).mapIdx fun i line => if i < first then line else indentLine indent line)

/-- Shifts every line, the first one included. -/
def indentLines (indent text : Text) : Text := indentFrom 0 indent text

/-- Shifts every line but the first, which the caller has already placed. -/
def indentFollowing (indent text : Text) : Text := indentFrom 1 indent text

theorem lines_ne_nil (text : Text) : lines text ≠ [] := List.splitOn_ne_nil '\n' text

theorem newline_notMem_of_mem_lines {text line : Text} (member : line ∈ lines text) : '\n' ∉ line := by
  induction text generalizing line with
  | nil => simp [lines, List.splitOn_nil] at member; simp [member]
  | cons c rest ih =>
    rw [lines, List.splitOn_cons_eq_if_modifyHead] at member
    obtain ⟨first, following, split⟩ := List.exists_cons_of_ne_nil (lines_ne_nil rest)
    rw [lines] at split
    rw [lines, split] at ih
    rw [split] at member
    by_cases newline : c = '\n'
    · simp only [newline, beq_self_eq_true, ↓reduceIte, List.mem_cons] at member
      rcases member with rfl | rfl | later
      · simp
      · exact ih (by simp)
      · exact ih (by simp [later])
    · simp only [beq_eq_false_iff_ne.mpr newline, Bool.false_eq_true, ↓reduceIte, List.modifyHead_cons,
        List.mem_cons] at member
      rcases member with rfl | later
      · simpa [Ne.symm newline] using @ih first (by simp)
      · exact ih (by simp [later])

theorem newline_notMem_indentLine {indent line : Text} (single : '\n' ∉ indent) (plain : '\n' ∉ line) :
    '\n' ∉ indentLine indent line := by
  unfold indentLine
  split <;> simp [single, plain]

private theorem indentLine_nil (line : Text) : indentLine [] line = line := by
  unfold indentLine
  split <;> rfl

private theorem indentFrom_nil (first : Nat) (text : Text) :
    ofLines ((lines text).mapIdx fun i line => if i < first then line else indentLine [] line) = text := by
  have same : ((lines text).mapIdx fun i line => if i < first then line else indentLine [] line) = lines text := by
    rw [List.mapIdx_eq_iff]
    simp [indentLine_nil]
  rw [same, ofLines_lines]

/-- The lines could be shifted by an empty indent as well. -/
theorem indentFrom_eq (first : Nat) (indent text : Text) : indentFrom first indent text =
    ofLines ((lines text).mapIdx fun i line => if i < first then line else indentLine indent line) := by
  unfold indentFrom
  split
  next empty => rw [List.isEmpty_iff.mp empty, indentFrom_nil]
  next => rfl

theorem indentLines_eq (indent text : Text) :
    indentLines indent text = ofLines ((lines text).map (indentLine indent)) := by
  have every : ((lines text).mapIdx fun i line => if i < 0 then line else indentLine indent line) =
      (lines text).map (indentLine indent) := by
    rw [List.mapIdx_eq_iff]
    simp
  rw [indentLines, indentFrom_eq, every]

theorem indentFollowing_eq {text first : Text} {following : List Text} (split : lines text = first :: following)
    (indent : Text) : indentFollowing indent text = ofLines (first :: following.map (indentLine indent)) := by
  have others : (following.mapIdx fun i line => if i + 1 < 1 then line else indentLine indent line) =
      following.map (indentLine indent) := by
    rw [List.mapIdx_eq_iff]
    simp
  rw [indentFollowing, indentFrom_eq, split, List.mapIdx_cons, others]
  rfl

/-- An indent that is part of one line shifts the lines and moves none of their ends. -/
theorem lines_indentLines {indent : Text} (single : '\n' ∉ indent) (text : Text) :
    lines (indentLines indent text) = (lines text).map (indentLine indent) := by
  rw [indentLines_eq]
  refine lines_ofLines ?_ (by simp [lines_ne_nil])
  intro line member
  obtain ⟨before, present, rfl⟩ := List.mem_map.mp member
  exact newline_notMem_indentLine single (newline_notMem_of_mem_lines present)

end Text

/-- What becomes of a whole number that 64 bits do not hold. A program is built to stop there or to drop the bits
above. -/
inductive Overflow where
  | stops
  | wraps
deriving DecidableEq

def Overflow.hold? (overflow : Overflow) (n : Nat) : Option UInt64 :=
  match overflow with
  | stops => if n < UInt64.size then some (UInt64.ofNat n) else none
  | wraps => some (UInt64.ofNat n)

/-- How deep a piece of text stands in the layout. -/
structure Level where
  depth : Nat := 0
deriving DecidableEq

namespace Level

/-- Columns by which one level stands to the right of the level around it. -/
def width : Nat := 2

def nested (level : Level) : Level := ⟨level.depth + 1⟩

def indent (level : Level) : Text := List.replicate (width * level.depth) ' '

/-- The bytes that a text in memory can have. -/
def longestText : Nat := 0x7FFFFFFFFFFFFFFF

/-- The indent of a level whose depth is held in 64 bits. There is none where the columns cannot be counted, or where
so many blanks are too long for a text. -/
def indent? (overflow : Overflow) (depth : UInt64) : Option Text :=
  match overflow.hold? (width * depth.toNat) with
  | some columns => if columns.toNat ≤ longestText then some (List.replicate columns.toNat ' ') else none
  | none => none

end Level
end ChefDsl
