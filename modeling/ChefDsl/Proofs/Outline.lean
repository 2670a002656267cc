import ChefDsl.Proofs.SourceText
import Mathlib.Data.List.Basic

/-! The lines of a file that data never reaches. All strings, keys and values stand in arguments, and every line of an
argument is indented. What is left at column zero depends only on the form of the entity. -/

namespace ChefDsl.Proofs.Outline
open TextLines ValueLayout SourceText

def isIndented (line : Text) : Bool := line.head? == some ' '

/-- The lines that do not begin with a blank. -/
def outline (text : Text) : List Text := text.lines.filter fun line => !isIndented line

/-- What shows of an entity at column zero. -/
inductive Form where
  | globalList (withoutItems : Bool)
  | listsByEnvironment
  | environment (cookbooks : Nat)
deriving DecidableEq

def form : Entity → Form
  | .role role => if role.envRunLists.length ≤ 1 then .globalList role.runList.isEmpty else .listsByEnvironment
  | .environment environment => .environment environment.cookbookVersions.length

def roleSkeleton : List String :=
  ["# encoding: utf-8", "", "name(", ")", "", "description(", ")", "", "default_attributes(", ")", "",
    "override_attributes(", ")", ""]

def skeleton : Form → List String
  | .globalList withoutItems => roleSkeleton ++ ["run_list("] ++ (if withoutItems then [""] else []) ++ [")"]
  | .listsByEnvironment => roleSkeleton ++ ["env_run_lists(", ")"]
  | .environment cookbooks =>
    ["name(", ")", "", "description(", ")", ""] ++ (List.replicate cookbooks ["cookbook(", ")"]).flatten ++
      ["", "default_attributes(", ")", "", "override_attributes(", ")"]

/-- The lines that open a call with run lists. -/
def opensRunLists (line : Text) : Bool := line == "run_list(".toList || line == "env_run_lists(".toList

def runListForms : Form → List String
  | .globalList _ => ["run_list("]
  | .listsByEnvironment => ["env_run_lists("]
  | .environment _ => []

section Blocks

theorem lines_fileText {blocks : List Block} (nonempty : blocks ≠ []) :
    (fileText blocks).lines = blocks.flatMap fun block => block.text.lines := by
  induction blocks with
  | nil => contradiction
  | cons block rest ih =>
    rw [List.flatMap_cons]
    cases rest with
    | nil => simp [fileText, Text.ofLines]
    | cons next rest => rw [fileText_cons block (by simp), lines_newline, ih (by simp)]

private theorem lines_arguments {arguments : List Value} (nonempty : arguments ≠ []) :
    ∀ line ∈ (argumentsText arguments).lines, (Level.mk 1).indent <+: line := by
  have solid := solid_arguments nonempty
  intro line member
  rw [← indentLines_arguments, Text.lines_indentLines (newline_notMem_indent _)] at member
  obtain ⟨before, inside, rfl⟩ := List.mem_map.mp member
  rw [Text.indentLine, if_neg (by simpa using solid before inside)]
  exact List.prefix_append _ _

private theorem notMem_methodName {method : String} (named : isMethodName method = true) {c : Char}
    (never : (c.isAlpha || c == '_') = false) : c ∉ method.toList := by
  intro member
  simp only [isMethodName, Bool.and_eq_true, List.all_eq_true] at named
  rw [named.2 c member] at never
  contradiction

theorem lines_callText {method : String} (named : isMethodName method = true) (arguments : List Value) :
    (callText method arguments).lines =
      [method.toList ++ ['(']] ++ ((argumentsText arguments).lines ++ [[')']]) := by
  have first : '\n' ∉ method.toList ++ ['('] := by simp [notMem_methodName named]
  have last : Text.lines [')'] = [[')']] := lines_plain (by simp)
  have split : callText method arguments = (method.toList ++ ['(']) ++ '\n' ::
      (argumentsText arguments ++ '\n' :: [')']) := by
    simp [callText]
  rw [split, lines_newline, lines_newline, lines_plain first, last]

/-- The lines of a block at column zero. -/
def blockOutline : Block → List Text
  | .heading => [Role.header]
  | .blank => [[]]
  | .call method arguments => [method.toList ++ ['(']] ++ ((if arguments.isEmpty then [[]] else []) ++ [[')']])

private theorem isIndented_of_indent {line : Text} (indented : (Level.mk 1).indent <+: line) :
    isIndented line = true := by
  obtain ⟨rest, rfl⟩ := indented
  rfl

private theorem isIndented_opening {method : String} (named : isMethodName method = true) :
    isIndented (method.toList ++ ['(']) = false := by
  have absent : ' ' ∉ method.toList := notMem_methodName named rfl
  cases split : method.toList with
  | nil => rfl
  | cons c rest =>
    rw [split, List.mem_cons, not_or] at absent
    simpa [isIndented] using Ne.symm absent.1

private theorem outline_arguments (arguments : List Value) :
    outline (argumentsText arguments) = if arguments.isEmpty then [[]] else [] := by
  by_cases empty : arguments = []
  · subst empty
    decide
  · have indented := lines_arguments empty
    simp only [List.isEmpty_iff, empty, ↓reduceIte]
    exact List.filter_eq_nil_iff.mpr fun line member => by simp [isIndented_of_indent (indented line member)]

private theorem outline_block {block : Block} (writable : block.isWritable = true) :
    outline block.text = blockOutline block := by
  cases block with
  | heading => decide
  | blank => decide
  | call method arguments =>
    simp only [Block.isWritable, Bool.and_eq_true] at writable
    have inner := outline_arguments arguments
    have last : isIndented [')'] = false := by decide
    unfold outline at inner
    rw [outline, Block.text, lines_callText writable.1, List.filter_append, List.filter_append, inner]
    simp [isIndented_opening writable.1, last, blockOutline]

/-- The lines at column zero are those that the blocks put there. -/
theorem outline_fileText {blocks : List Block} (nonempty : blocks ≠ []) (writable : blocks.all Block.isWritable = true) :
    outline (fileText blocks) = blocks.flatMap blockOutline := by
  rw [outline, lines_fileText nonempty, List.filter_flatMap]
  exact List.flatMap_congr fun block member => outline_block (List.all_eq_true.mp writable block member)

private theorem indent_callText {method : String} (named : isMethodName method = true) (arguments : List Value) :
    ∀ line ∈ (callText method arguments).lines, isIndented line = true → (Level.mk 1).indent <+: line := by
  intro line member indented
  rw [lines_callText named, List.mem_append, List.mem_append] at member
  rcases member with first | inner | last
  · rw [List.mem_singleton.mp first, isIndented_opening named] at indented
    contradiction
  · by_cases empty : arguments = []
    · subst empty
      have alone : line = [] := by simpa [argumentsText, lines_plain] using inner
      rw [alone] at indented
      contradiction
    · exact lines_arguments empty line inner
  · rw [List.mem_singleton.mp last] at indented
    contradiction

/-- An indented line is indented by a whole level at least. -/
theorem indent_fileText {blocks : List Block} (nonempty : blocks ≠ []) (writable : blocks.all Block.isWritable = true) :
    ∀ line ∈ (fileText blocks).lines, isIndented line = true → (Level.mk 1).indent <+: line := by
  intro line member indented
  rw [lines_fileText nonempty] at member
  obtain ⟨block, inside, among⟩ := List.mem_flatMap.mp member
  cases block with
  | heading =>
    rw [Block.text, lines_plain (by decide), List.mem_singleton] at among
    rw [among] at indented
    contradiction
  | blank =>
    rw [Block.text, lines_plain (by simp), List.mem_singleton] at among
    rw [among] at indented
    contradiction
  | call method arguments =>
    have proper := List.all_eq_true.mp writable _ inside
    simp only [Block.isWritable, Bool.and_eq_true] at proper
    exact indent_callText proper.1 arguments line among indented

end Blocks

section Entities

private theorem blockOutline_runList (role : Role) : blockOutline (.call role.runListCall.1 role.runListCall.2) =
    if role.envRunLists.length ≤ 1 then
      ["run_list(".toList] ++ ((if role.runList.isEmpty then [[]] else []) ++ [[')']])
    else ["env_run_lists(".toList, [')']] := by
  by_cases single : role.envRunLists.length ≤ 1
  · simp [Role.runListCall, Role.writesByEnvironment, Nat.not_lt.mpr single, single, blockOutline, RunList.values]
  · simp [Role.runListCall, Role.writesByEnvironment, Nat.lt_of_not_le single, single, blockOutline]

private theorem outline_entityBlocks (entity : Entity) :
    (entityBlocks entity).flatMap blockOutline = (skeleton (form entity)).map String.toList := by
  cases entity with
  | role role =>
    rw [entityBlocks, roleBlocks, List.flatMap_append, List.flatMap_singleton, blockOutline_runList, form]
    split
    · cases role.runList.isEmpty <;> rfl
    · rfl
  | environment environment =>
    have cookbooks : (environment.cookbookVersions.map cookbookBlock).flatMap blockOutline =
        (List.replicate environment.cookbookVersions.length ["cookbook(".toList, [')']]).flatten := by
      have each : (fun entry => blockOutline (cookbookBlock entry)) = fun _ => ["cookbook(".toList, [')']] := rfl
      rw [List.flatMap_map, List.flatMap_def, each, List.map_const']
    rw [entityBlocks, environmentBlocks, List.flatMap_append, List.flatMap_append, List.flatMap_append, cookbooks]
    simp [form, skeleton, blockOutline]

private theorem outline_file (entity : Entity) :
    outline (fileText (entityBlocks entity)) = (skeleton (form entity)).map String.toList := by
  rw [outline_fileText (entityBlocks_ne_nil entity) (isWritable_entityBlocks entity), outline_entityBlocks]

private theorem filter_runLists_skeleton (shape : Form) :
    ((skeleton shape).map String.toList).filter opensRunLists = (runListForms shape).map String.toList := by
  cases shape with
  | globalList withoutItems => cases withoutItems <;> decide
  | listsByEnvironment => decide
  | environment cookbooks =>
    have front : ∀ text ∈ ["name(", ")", "", "description(", ")", ""], ¬ opensRunLists text.toList = true := by decide
    have middle : ∀ text ∈ ["cookbook(", ")"], ¬ opensRunLists text.toList = true := by decide
    have back : ∀ text ∈ ["", "default_attributes(", ")", "", "override_attributes(", ")"],
        ¬ opensRunLists text.toList = true := by decide
    rw [runListForms, List.map_nil, List.filter_eq_nil_iff, List.forall_mem_map]
    intro text member
    simp only [skeleton, List.mem_append, List.mem_flatten, List.mem_replicate] at member
    rcases member with (first | ⟨_, ⟨_, rfl⟩, cookbook⟩) | last
    · exact front text first
    · exact middle text cookbook
    · exact back text last

/-- A line that opens run lists stands at column zero, so the outline shows all of them. -/
theorem filter_runLists (text : Text) : text.lines.filter opensRunLists = (outline text).filter opensRunLists := by
  rw [outline, List.filter_filter]
  apply List.filter_congr
  intro line _
  cases opens : opensRunLists line with
  | false => rfl
  | true =>
    simp only [opensRunLists, Bool.or_eq_true, beq_iff_eq] at opens
    rcases opens with rfl | rfl <;> decide

/-- Only the form of an entity shows at column zero. All else is indented by two blanks or more, one call with run
lists is made for every role and none for an environment, and entities of one form have one outline. -/
theorem outline_source (entity : Entity) :
    ∃ text, entity.source = .ok text ∧
      outline text = (skeleton (form entity)).map String.toList ∧
      (∀ line ∈ text.lines, isIndented line = true → [' ', ' '] <+: line) ∧
      text.lines.filter opensRunLists = (runListForms (form entity)).map String.toList ∧
      ∀ other, form other = form entity → ∃ second, other.source = .ok second ∧ outline second = outline text := by
  refine ⟨_, entity_source entity, outline_file entity, ?_, ?_, ?_⟩
  · exact indent_fileText (entityBlocks_ne_nil entity) (isWritable_entityBlocks entity)
  · rw [filter_runLists, outline_file, filter_runLists_skeleton]
  · intro other same
    exact ⟨_, entity_source other, by rw [outline_file, outline_file, same]⟩

end Entities

end ChefDsl.Proofs.Outline
