import ChefDsl.Proofs.Results
import ChefDsl.Proofs.ValueLayout
import ChefDsl.Source.File

/-! The file of an entity as a list of blocks on lines of their own. A call writes each argument at the depth where it
stands, so nothing has to be shifted any more, and the text that is cut off at the end is one line break. -/

namespace ChefDsl.Proofs.SourceText
open Results TextLines ValueLayout Source

/-- Whether a value may stand as an argument of a call. -/
def isArgument : Value → Bool
  | .string _ | .hash _ => true
  | _ => false

def isMethodName (name : String) : Bool := !name.toList.isEmpty && name.toList.all fun c => c.isAlpha || c == '_'

def argumentText (value : Value) : Text := (Level.mk 1).indent ++ layoutAt 1 value

def argumentsText (arguments : List Value) : Text := [',', '\n'].intercalate (arguments.map argumentText)

def callText (method : String) (arguments : List Value) : Text :=
  method.toList ++ ['(', '\n'] ++ argumentsText arguments ++ ['\n', ')']

inductive Block where
  | heading
  | blank
  | call (method : String) (arguments : List Value)

namespace Block

def text : Block → Text
  | heading => Role.header
  | blank => []
  | call method arguments => callText method arguments

/-- Whether a call has the name of a method and arguments that can be written. -/
def isWritable : Block → Bool
  | call method arguments => isMethodName method && arguments.all isArgument
  | _ => true

def writing : Block → Writing Unit
  | heading => do
    Writer.write Role.header
    Writer.newLine
  | blank => Writer.newLine
  | call method arguments => Writer.call method arguments

end Block

/-- The writing goes well with any writer and leaves it with this text behind its own. -/
def Adds (writing : Writing Unit) (text : Text) : Prop :=
  ∀ writer : Writer, writer.apply writing = (.ok (), ⟨writer.text ++ text⟩)

def fileText (blocks : List Block) : Text := Text.ofLines (blocks.map Block.text)

theorem fileText_cons (block : Block) {rest : List Block} (more : rest ≠ []) :
    fileText (block :: rest) = block.text ++ '\n' :: fileText rest :=
  ofLines_cons block.text (by simpa using more)

section Writings
variable {first second : Writing Unit} {before after : Text}

theorem Adds.andThen (one : Adds first before) (two : Adds second after) :
    Adds (first >>= fun _ => second) (before ++ after) := by
  intro writer
  have goes : first.run.run writer = (.ok (), ⟨writer.text ++ before⟩) := one writer
  have goesOn : second.run.run ⟨writer.text ++ before⟩ = (.ok (), ⟨writer.text ++ before ++ after⟩) := two _
  rw [List.append_assoc] at goesOn
  rw [Writer.apply, ExceptT.run_bind, StateT.run_bind, goes]
  exact goesOn

private theorem adds_nothing : Adds (pure ()) [] := by
  intro writer
  rw [List.append_nil]
  rfl

private theorem adds_write (text : Text) : Adds (Writer.write text) text := fun _ => rfl

private theorem adds_newLine : Adds Writer.newLine ['\n'] := adds_write ['\n']

end Writings

section Calls

private theorem argument_eq {value : Value} (accepted : isArgument value = true) :
    Writer.argument value = .ok value.literal := by
  cases value with
  | string text => rfl
  | hash entries =>
    have unshifted : (Value.hash entries).format ⟨0⟩ = (Value.hash entries).literal := by
      rw [format_eq, ← shift_literal]
      exact shift_nothing _
    exact congrArg Except.ok unshifted
  | _ => contradiction

theorem solid_arguments {arguments : List Value} (nonempty : arguments ≠ []) :
    Solid ([',', '\n'].intercalate (arguments.map Value.literal)) := by
  apply solid_intercalate (by simpa using nonempty)
  rw [List.forall_mem_map]
  intro value _
  exact solid_literal value

/-- Arguments are laid out like the members of a container at depth zero. -/
theorem argumentsText_eq {arguments : List Value} (nonempty : arguments ≠ []) :
    argumentsText arguments =
      (Level.mk 1).indent ++ (',' :: newline 1).intercalate (arguments.map (layoutAt 1)) := by
  have placed : arguments.map argumentText = (arguments.map (layoutAt 1)).map ((Level.mk 1).indent ++ ·) := by
    rw [List.map_map]
    rfl
  rw [argumentsText, placed, intercalate_leading _ _ (by simpa using nonempty)]
  rfl

theorem indentLines_arguments (arguments : List Value) :
    Text.indentLines (Level.mk 1).indent ([',', '\n'].intercalate (arguments.map Value.literal)) =
      argumentsText arguments := by
  by_cases empty : arguments = []
  · simp [empty, indentLines_plain, Text.indentLine, argumentsText]
  · have nonempty : arguments.map Value.literal ≠ [] := by simpa using empty
    have solid : ∀ literal ∈ arguments.map Value.literal, Solid literal := by
      intro literal member
      obtain ⟨value, _, rfl⟩ := List.mem_map.mp member
      exact solid_literal value
    have shifted : (arguments.map Value.literal).map (shift (Level.mk 1).indent) = arguments.map (layoutAt 1) := by
      rw [List.map_map]
      exact List.map_congr_left fun value _ => shift_literal value 1
    rw [argumentsText_eq empty, indentLines_solid _ (solid_arguments empty), shift_intercalate, shifted]
    simp [shift, newline]

theorem adds_call (method : String) {arguments : List Value} (accepted : arguments.all isArgument = true) :
    Adds (Writer.call method arguments) (callText method arguments ++ ['\n']) := by
  have literals : arguments.mapM Writer.argument = .ok (arguments.map Value.literal) :=
    mapM_ok fun value member => argument_eq (List.all_eq_true.mp accepted value member)
  have body : Text.indentLines (Level.mk 0).nested.indent _ = _ := indentLines_arguments arguments
  have written := (adds_write method.toList).andThen <| (adds_write ['(', '\n']).andThen <|
    (adds_write (argumentsText arguments)).andThen <| (adds_write ['\n', ')']).andThen adds_newLine
  have text : callText method arguments ++ ['\n'] =
      method.toList ++ (['(', '\n'] ++ (argumentsText arguments ++ (['\n', ')'] ++ ['\n']))) := by
    simp [callText]
  rw [← body] at written
  rw [Writer.call, literals, text, ← body]
  exact fun writer => written writer

end Calls

section Blocks

private theorem Block.adds_writing {block : Block} (writable : block.isWritable = true) :
    Adds block.writing (block.text ++ ['\n']) := by
  cases block with
  | heading => exact (adds_write Role.header).andThen adds_newLine
  | blank => exact adds_newLine
  | call method arguments =>
    simp only [Block.isWritable, Bool.and_eq_true] at writable
    exact adds_call method writable.2

private theorem adds_blocks {blocks : List Block} (writable : blocks.all Block.isWritable = true) :
    Adds (blocks.forM Block.writing) (blocks.flatMap fun block => block.text ++ ['\n']) := by
  induction blocks with
  | nil => exact adds_nothing
  | cons block rest ih =>
    rw [List.all_cons, Bool.and_eq_true] at writable
    exact (Block.adds_writing writable.1).andThen (ih writable.2)

/-- Every block ends its line, where the file only separates lines. -/
theorem flatMap_text {blocks : List Block} (nonempty : blocks ≠ []) :
    (blocks.flatMap fun block => block.text ++ ['\n']) = fileText blocks ++ ['\n'] := by
  induction blocks with
  | nil => contradiction
  | cons block rest ih =>
    cases rest with
    | nil => simp [fileText, Text.ofLines]
    | cons next rest => rw [List.flatMap_cons, ih (by simp), fileText_cons block (by simp)]; simp

theorem fileText_ends (blocks : List Block) (method : String) (arguments : List Value) :
    ∃ text, fileText (blocks ++ [.call method arguments]) = text ++ [')'] := by
  induction blocks with
  | nil =>
    refine ⟨method.toList ++ ['(', '\n'] ++ argumentsText arguments ++ ['\n'], ?_⟩
    simp [fileText, Text.ofLines, Block.text, callText]
  | cons block rest ih =>
    obtain ⟨text, ends⟩ := ih
    refine ⟨block.text ++ '\n' :: text, ?_⟩
    rw [List.cons_append, fileText_cons block (by simp), ends]
    simp

end Blocks

section Entities

def cookbookBlock (entry : String × String) : Block := .call "cookbook" [.string entry.1, .string entry.2]

def roleBlocks (role : Role) : List Block :=
  [.heading, .blank, .call "name" [.string role.name], .blank, .call "description" [.string role.description], .blank,
    .call "default_attributes" [.hash role.defaultAttributes], .blank,
    .call "override_attributes" [.hash role.overrideAttributes], .blank] ++
  [.call role.runListCall.1 role.runListCall.2]

def environmentBlocks (environment : Environment) : List Block :=
  [.call "name" [.string environment.name], .blank, .call "description" [.string environment.description], .blank] ++
  environment.cookbookVersions.map cookbookBlock ++
  [.blank, .call "default_attributes" [.hash environment.defaultAttributes], .blank] ++
  [.call "override_attributes" [.hash environment.overrideAttributes]]

def entityBlocks : Entity → List Block
  | .role value => roleBlocks value
  | .environment value => environmentBlocks value

private theorem isWritable_runList (role : Role) :
    (Block.call role.runListCall.1 role.runListCall.2).isWritable = true := by
  have names : isMethodName "run_list" ∧ isMethodName "env_run_lists" := by decide
  unfold Role.runListCall
  split
  · simp [Block.isWritable, names, isArgument]
  · simp [Block.isWritable, names, RunList.values, isArgument]

theorem isWritable_entityBlocks (entity : Entity) : (entityBlocks entity).all Block.isWritable = true := by
  have names : isMethodName "name" ∧ isMethodName "description" ∧ isMethodName "default_attributes" ∧
      isMethodName "override_attributes" ∧ isMethodName "cookbook" := by decide
  cases entity with
  | role role =>
    have last := isWritable_runList role
    simp only [Block.isWritable] at last
    simp [entityBlocks, roleBlocks, Block.isWritable, names, isArgument, last]
  | environment environment =>
    simp [entityBlocks, environmentBlocks, cookbookBlock, Block.isWritable, names, isArgument]

theorem entityBlocks_ends (entity : Entity) :
    ∃ blocks method arguments, entityBlocks entity = blocks ++ [.call method arguments] := by
  cases entity with
  | role role => exact ⟨_, _, _, rfl⟩
  | environment environment => exact ⟨_, _, _, rfl⟩

theorem entityBlocks_ne_nil (entity : Entity) : entityBlocks entity ≠ [] := by
  obtain ⟨blocks, method, arguments, split⟩ := entityBlocks_ends entity
  simp [split]

/-- A blank line follows the last call, which would separate it from another one. -/
theorem draft_eq (entity : Entity) : entity.draft = (entityBlocks entity ++ [Block.blank]).forM Block.writing := by
  cases entity with
  | role role => simp [Entity.draft, Role.draft, entityBlocks, roleBlocks, Block.writing]
  | environment environment =>
    simp [Entity.draft, Environment.draft, entityBlocks, environmentBlocks, Block.writing, cookbookBlock]

/-- Every block ends its line, so two line breaks follow the last call. -/
theorem adds_draft (entity : Entity) : Adds entity.draft (fileText (entityBlocks entity) ++ ['\n', '\n']) := by
  have writable : (entityBlocks entity ++ [Block.blank]).all Block.isWritable = true := by
    rw [List.all_append, isWritable_entityBlocks]
    rfl
  have added := adds_blocks writable
  rw [← draft_eq, List.flatMap_append, flatMap_text (entityBlocks_ne_nil entity), List.append_assoc] at added
  exact added

/-- Finishing cuts off the two line breaks alone. -/
theorem finish_draft (entity : Entity) :
    Writer.finish ⟨fileText (entityBlocks entity) ++ ['\n', '\n']⟩ = fileText (entityBlocks entity) := by
  obtain ⟨blocks, method, arguments, split⟩ := entityBlocks_ends entity
  obtain ⟨text, ends⟩ := fileText_ends blocks method arguments
  have blank : ∀ c ∈ ['\n', '\n'], isBlank c = true := by
    intro c member
    rw [List.eq_of_mem_replicate (n := 2) member]
    decide
  rw [split, ends]
  exact trimEnd_blanks text rfl blank

theorem entity_source (entity : Entity) : entity.source = .ok (fileText (entityBlocks entity)) := by
  have written : Writer.empty.apply entity.draft = (.ok (), ⟨fileText (entityBlocks entity) ++ ['\n', '\n']⟩) :=
    adds_draft entity Writer.empty
  have finished : entity.source = Writer.finished entity.draft := by
    cases entity with
    | role role => rfl
    | environment environment => rfl
  rw [finished, Writer.finished, written]
  exact congrArg Except.ok (finish_draft entity)

theorem role_source (role : Role) : role.source = .ok (fileText (roleBlocks role)) := entity_source (.role role)

theorem environment_source (environment : Environment) :
    environment.source = .ok (fileText (environmentBlocks environment)) := entity_source (.environment environment)

end Entities

end ChefDsl.Proofs.SourceText
