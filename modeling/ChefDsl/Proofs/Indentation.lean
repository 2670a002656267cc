import ChefDsl.Proofs.TextLines

/-! Indentation acts on the lines of a text, each by itself. An indent without a newline leaves the number of lines as
it is, so it can be taken off again, and two indents put on one after the other are one indent. The two forms of
indentation differ only in the line they start from. -/

namespace ChefDsl.Proofs.Indentation
open Text TextLines

section Statement

/-- Changes the lines from the one numbered `first` on. -/
def changeFrom (first : Nat) (change : Text → Text) (text : Text) : Text :=
  ofLines ((lines text).mapIdx fun i line => if i < first then line else change line)

/-- Takes the indent off a line that begins with it. -/
def dedentLine (indent line : Text) : Text :=
  if indent.isPrefixOf line then line.drop indent.length else line

/-- The indent stands in front of every line that holds something, from the one numbered `first` on. Every other line
stays, and so does the end of the text. The indent comes off again, and one put on next goes in front of it. -/
structure Indents (put : Text → Text → Text) (first : Nat) (indent : Text) : Prop where
  count : ∀ text, (lines (put indent text)).length = (lines text).length
  line : ∀ text i line, (lines text)[i]? = some line →
    (lines (put indent text))[i]? = some (if i < first ∨ line = [] then line else indent ++ line)
  ending : ∀ text, (put indent text).getLast? = text.getLast?
  removed : ∀ text, changeFrom first (dedentLine indent) (put indent text) = text
  injective : Function.Injective (put indent)
  composed : ∀ outer text, put outer (put indent text) = put (outer ++ indent) text

end Statement

section Changes
variable (first : Nat) (change : Text → Text) (text : Text)

/-- A change that splits no line changes the lines and nothing else. -/
theorem lines_changeFrom (whole : ∀ line, '\n' ∉ line → '\n' ∉ change line) : lines (changeFrom first change text) =
    (lines text).mapIdx fun i line => if i < first then line else change line := by
  apply lines_ofLines
  · intro line member
    obtain ⟨i, inside, rfl⟩ := List.mem_mapIdx.mp member
    have plain := newline_notMem_of_mem_lines (List.getElem_mem inside)
    split
    · exact plain
    · exact whole _ plain
  · have some := List.length_pos_iff.mpr (lines_ne_nil text)
    apply List.ne_nil_of_length_pos
    rwa [List.length_mapIdx]

private theorem changeFrom_changeFrom (next : Text → Text) (whole : ∀ line, '\n' ∉ line → '\n' ∉ change line) :
    changeFrom first next (changeFrom first change text) = changeFrom first (next ∘ change) text := by
  rw [changeFrom, lines_changeFrom first change text whole, List.mapIdx_mapIdx, changeFrom]
  congr 2
  funext i line
  by_cases before : i < first
  · simp [before]
  · simp [before]

private theorem changeFrom_id : changeFrom first id text = text := by
  have same : (lines text).mapIdx (fun i line => if i < first then line else id line) = lines text := by
    rw [List.mapIdx_eq_iff]
    simp
  rw [changeFrom, same, ofLines_lines]

private theorem getLast_ofLines (before : List Text) (last : Text) :
    (ofLines (before ++ [last])).getLast? = last.getLast?.or (if before = [] then none else some '\n') := by
  have alone : ofLines [last] = last := by simp [ofLines]
  by_cases none : before = []
  · rw [none, List.nil_append, alone]
    simp
  · rw [ofLines_append none (by simp), alone, List.getLast?_append, List.getLast?_cons, if_neg none]
    cases last.getLast? <;> rfl

private theorem getLast_changeFrom (ends : ∀ line, (change line).getLast? = line.getLast?) :
    (changeFrom first change text).getLast? = text.getLast? := by
  have joined := ofLines_lines text
  rcases List.eq_nil_or_concat (lines text) with none | ⟨before, last, split⟩
  · exact absurd none (lines_ne_nil text)
  · rw [List.concat_eq_append] at split
    rw [split] at joined
    rw [changeFrom, split, List.mapIdx_concat, ← joined, getLast_ofLines, getLast_ofLines, apply_ite List.getLast?, ends]
    simp

end Changes

section Indents
variable {indent : Text}

private theorem indentLine_eq (indent line : Text) :
    indentLine indent line = if line = [] then line else indent ++ line := by
  simp [indentLine]

private theorem indentLine_indentLine (outer indent : Text) :
    indentLine outer ∘ indentLine indent = indentLine (outer ++ indent) := by
  funext line
  by_cases empty : line = []
  · simp [indentLine, empty]
  · simp [indentLine, empty]

/-- An empty line begins with no indent but the empty one. -/
theorem dedentLine_indentLine (indent : Text) : dedentLine indent ∘ indentLine indent = id := by
  funext line
  by_cases empty : line = []
  · simp [dedentLine, indentLine, empty]
  · simp [dedentLine, indentLine, empty]

private theorem getLast_indentLine (indent line : Text) : (indentLine indent line).getLast? = line.getLast? := by
  rw [indentLine_eq]
  split
  · rfl
  · next some =>
    rw [List.getLast?_append, List.getLast?_eq_some_getLast some, Option.some_or]

private theorem indents_indentFrom (first : Nat) (single : '\n' ∉ indent) :
    Indents (indentFrom first) first indent := by
  have changes : indentFrom first = fun indent => changeFrom first (indentLine indent) := by
    funext indent text
    rw [indentFrom_eq, changeFrom]
  have whole (line : Text) : '\n' ∉ line → '\n' ∉ indentLine indent line := newline_notMem_indentLine single
  have removed (text : Text) :
      changeFrom first (dedentLine indent) (changeFrom first (indentLine indent) text) = text := by
    rw [changeFrom_changeFrom first _ text _ whole, dedentLine_indentLine, changeFrom_id]
  rw [changes]
  refine ⟨?_, ?_, ?_, removed, Function.LeftInverse.injective removed, ?_⟩
  · intro text
    rw [lines_changeFrom first _ text whole, List.length_mapIdx]
  · intro text i line here
    rw [lines_changeFrom first _ text whole, List.getElem?_mapIdx, here, Option.map_some, indentLine_eq]
    by_cases before : i < first
    · simp [before]
    · simp [before]
  · exact fun text => getLast_changeFrom first _ text (getLast_indentLine indent)
  · intro outer text
    rw [changeFrom_changeFrom first _ text _ whole, indentLine_indentLine]

/-- Both forms of indentation put an indent in front of the lines that hold something, one form of all of them and the
other of all but the first line. The indent may be anything that is part of one line, and the one put on next may even
hold newlines. -/
theorem indentation_acts (single : '\n' ∉ indent) : Indents indentLines 0 indent ∧ Indents indentFollowing 1 indent :=
  ⟨indents_indentFrom 0 single, indents_indentFrom 1 single⟩

/-- A carriage return at the end of a line, an empty line, a line that begins with a blank, and a newline at the end. -/
def ragged : Text := "\x7b\r\n\n x\n".toList

def raggedIndented : Text := "\x7b\r\n\n\t  x\n".toList

theorem indentation_acts_ragged :
    '\n' ∉ ['\t', ' '] ∧ Indents indentLines 0 ['\t', ' '] ∧ Indents indentFollowing 1 ['\t', ' '] ∧
      indentFollowing ['\t', ' '] ragged = raggedIndented ∧
      changeFrom 1 (dedentLine ['\t', ' ']) raggedIndented = ragged ∧
      indentFollowing ['#', '\n'] raggedIndented = indentFollowing ['#', '\n', '\t', ' '] ragged := by
  have single : '\n' ∉ ['\t', ' '] := by decide
  obtain ⟨lines, following⟩ := indentation_acts single
  have indented : indentFollowing ['\t', ' '] ragged = raggedIndented := by decide +kernel
  have removed := following.removed ragged
  have composed := following.composed ['#', '\n'] ragged
  rw [indented] at removed composed
  exact ⟨single, lines, following, indented, removed, composed⟩

end Indents

end ChefDsl.Proofs.Indentation
