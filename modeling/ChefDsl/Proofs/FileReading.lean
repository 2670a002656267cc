import ChefDsl.Proofs.SourceText
import ChefDsl.Proofs.ValueReading

/-! Files read back as the calls that were written. Blank lines and the comment at the top vanish, and a call ends at
its own closing parenthesis whatever its arguments hold. -/

namespace ChefDsl.Proofs.FileReading
open SourceReader NumberReading ListReading ValueLayout ValueReading UniqueKeys SourceText

/-- What a reader of the file gets from a block. -/
def blockCalls : Block → List Call
  | .call method arguments => [⟨method, arguments.map datum⟩]
  | _ => []

/-- Whether the keys of every map in the arguments are different. -/
def Legible : Block → Prop
  | .call _ arguments => ∀ argument ∈ arguments, Keyed argument
  | _ => True

private theorem legible_heading : Legible .heading := trivial

private theorem legible_blank : Legible .blank := trivial

private theorem legible_call {method : String} {arguments : List Value} :
    Legible (.call method arguments) ↔ ∀ argument ∈ arguments, Keyed argument :=
  Iff.rfl

section Calls
variable {depth : Nat} {method : String} {arguments : List Value}

private theorem isWordChar_of_isMethodName (named : isMethodName method = true) :
    method.toList ≠ [] ∧ ∀ c ∈ method.toList, isWordChar c = true := by
  simp only [isMethodName, Bool.and_eq_true, Bool.not_eq_true', List.isEmpty_eq_false_iff, List.all_eq_true] at named
  refine ⟨named.1, ?_⟩
  intro c member
  have letter := named.2 c member
  simp only [Bool.or_eq_true, beq_iff_eq] at letter
  rcases letter with letter | rfl
  · simp [isWordChar, Char.isAlphanum, letter]
  · decide

private theorem closes_parenthesis : Closes ')' := ⟨by decide, by decide, by decide⟩

private theorem readList_arguments (keyed : ∀ argument ∈ arguments, Keyed argument)
    (enough : ∀ argument ∈ arguments, (layoutAt 1 argument).length ≤ depth) (rest : Text) :
    readList (readLiteral depth) ')'
        ('\n' :: (argumentsText arguments ++ '\n' :: ')' :: rest)) =
      some (arguments.map datum, rest) := by
  by_cases empty : arguments = []
  · subst empty
    have blank : Blank ['\n', '\n'] := by simp [Blank]
    exact readList_empty blank closes_parenthesis
  · have each : ∀ part ∈ arguments.map fun argument => (layoutAt 1 argument, datum argument),
        Reads (readLiteral depth) part.1 part.2 := by
      intro part member
      obtain ⟨argument, inside, rfl⟩ := List.mem_map.mp member
      exact reads_layoutAt argument (keyed argument inside) 1 (enough argument inside)
    have ends : Ends (newline 0 ++ ')' :: rest) := by simp [Ends, newline, endsLiteral]
    have reads :=
      readList_members (by simpa using empty) each closes_parenthesis (blank_newline 1) (blank_newline 0) ends
    rw [List.map_map, List.map_map] at reads
    rw [argumentsText_eq empty, List.append_assoc]
    exact reads

private theorem length_argument_le {argument : Value} (inside : argument ∈ arguments) :
    (layoutAt 1 argument).length ≤ (callText method arguments).length := by
  have within := length_le_intercalate_of_mem [',', '\n'] (List.mem_map_of_mem (f := argumentText) inside)
  simp only [argumentText, List.length_append] at within
  simp only [callText, argumentsText, List.length_append]
  omega

private theorem readCall_callText (word : ∀ c ∈ method.toList, isWordChar c = true)
    (keyed : ∀ argument ∈ arguments, Keyed argument)
    (enough : (callText method arguments).length ≤ depth) (rest : Text) :
    readCall (readLiteral depth) (callText method arguments ++ rest) = some (⟨method, arguments.map datum⟩, rest) := by
  have reads := readList_arguments keyed (fun _ inside => Nat.le_trans (length_argument_le inside) enough) rest
  have opened (more : Text) : readWord (method.toList ++ '(' :: more) = (method, '(' :: more) := by
    rw [readWord_append word (by simp; decide), String.ofList_toList]
  have split : callText method arguments ++ rest = method.toList ++ '(' :: '\n' ::
      (argumentsText arguments ++ '\n' :: ')' :: rest) := by
    simp [callText]
  rw [split, readCall, opened]
  simp [reads]

end Calls

section Blocks
variable {depth count : Nat} {calls : List Call}

private theorem readCalls_layout (read : Text → Option (Datum × Text)) (count : Nat) {first second : Text}
    (same : skipLayout first = skipLayout second) : readCalls read count first = readCalls read count second := by
  cases count with
  | zero => rfl
  | succ count => rw [readCalls, readCalls, same]

private theorem readCalls_call {read : Text → Option (Datum × Text)} {c : Char} {more rest : Text} {call : Call}
    (opens : opensLiteral c = true) (reads : readCall read (c :: more) = some (call, rest))
    (others : readCalls read count rest = some calls) :
    readCalls read (count + 1) (c :: more) = some (call :: calls) := by
  rw [readCalls, skipLayout_opens opens]
  simp [reads, others]

private theorem skipComment_plain {text : Text} (plain : '\n' ∉ text) (rest : Text) :
    skipComment (text ++ rest) = skipComment rest := by
  induction text with
  | nil => rfl
  | cons c text ih =>
    simp only [List.mem_cons, not_or] at plain
    rw [List.cons_append, skipComment, if_neg (Ne.symm plain.1), ih plain.2]

private theorem skipLayout_heading {rest : Text} (ends : rest = [] ∨ ∃ more, rest = '\n' :: more) :
    skipLayout (Role.header ++ rest) = skipLayout rest := by
  have comment : skipLayout (Role.header ++ rest) = skipComment rest := by
    rw [show Role.header = '#' :: " encoding: utf-8".toList by decide, List.cons_append, skipLayout, if_pos rfl]
    exact skipComment_plain (by decide) rest
  rw [comment]
  obtain rfl | ⟨more, rfl⟩ := ends
  · simp [skipLayout, skipComment]
  · simp [skipLayout, skipComment]

/-- A block at the end of a line gives its calls, and reading goes on behind it. -/
theorem readCalls_block {block : Block} (writable : block.isWritable = true) (legible : Legible block)
    (enough : block.text.length ≤ depth) {rest : Text} (ends : rest = [] ∨ ∃ more, rest = '\n' :: more)
    (others : readCalls (readLiteral depth) count rest = some calls) :
    readCalls (readLiteral depth) (count + (blockCalls block).length) (block.text ++ rest) =
      some (blockCalls block ++ calls) := by
  cases block with
  | heading => exact (readCalls_layout _ _ (skipLayout_heading ends)).trans others
  | blank => exact others
  | call method arguments =>
    simp only [Block.isWritable, Bool.and_eq_true] at writable
    obtain ⟨named, word⟩ := isWordChar_of_isMethodName writable.1
    obtain ⟨c, more, split⟩ := List.exists_cons_of_ne_nil named
    have letter : isWordChar c = true := word c (by simp [split])
    have begins : ∃ tail, callText method arguments ++ rest = c :: tail := by
      simp only [callText, split, List.cons_append]
      exact ⟨_, rfl⟩
    obtain ⟨tail, written⟩ := begins
    have reads := readCall_callText word legible enough rest
    rw [written] at reads
    rw [Block.text, written]
    exact readCalls_call (by simp [opensLiteral, letter]) reads others

private theorem readCalls_fileText {blocks : List Block} (writable : blocks.all Block.isWritable = true)
    (legible : ∀ block ∈ blocks, Legible block) (enough : (fileText blocks).length ≤ depth)
    (room : (blocks.flatMap blockCalls).length < count) :
    readCalls (readLiteral depth) count (fileText blocks) = some (blocks.flatMap blockCalls) := by
  induction blocks generalizing count with
  | nil =>
    obtain ⟨fewer, rfl⟩ : ∃ fewer, count = fewer + 1 := Nat.exists_eq_add_one_of_ne_zero (by omega)
    simp [fileText, Text.ofLines, readCalls, skipLayout]
  | cons block rest ih =>
    rw [List.all_cons, Bool.and_eq_true] at writable
    rw [List.flatMap_cons, List.length_append] at room
    have first := legible block (by simp)
    obtain ⟨left, rfl⟩ : ∃ left, count = left + (blockCalls block).length :=
      ⟨count - (blockCalls block).length, by omega⟩
    cases rest with
    | nil =>
      have alone : fileText [block] = block.text ++ [] := by simp [fileText, Text.ofLines]
      rw [alone] at enough ⊢
      have others : readCalls (readLiteral depth) left [] = some [] :=
        ih rfl (by simp) (by simp [fileText, Text.ofLines]) (by omega)
      exact readCalls_block writable.1 first (by simpa using enough) (Or.inl rfl) others
    | cons next rest =>
      rw [fileText_cons block (by simp), List.length_append, List.length_cons] at enough
      have others : readCalls (readLiteral depth) left (fileText (next :: rest)) = _ :=
        ih writable.2 (fun other member => legible other (by simp [member])) (by omega) (by omega)
      have newline (text : Text) : skipLayout ('\n' :: text) = skipLayout text := by simp [skipLayout]
      rw [← readCalls_layout _ _ (newline _)] at others
      rw [fileText_cons block (by simp), List.flatMap_cons]
      exact readCalls_block writable.1 first (by omega) (Or.inr ⟨_, rfl⟩) others

private theorem length_calls_le (blocks : List Block) :
    (blocks.flatMap blockCalls).length ≤ (fileText blocks).length := by
  have shorter (block : Block) : (blockCalls block).length ≤ block.text.length := by
    cases block with
    | call method arguments =>
      simp only [blockCalls, Block.text, callText, List.length_append, List.length_cons]
      omega
    | _ => exact Nat.zero_le _
  induction blocks with
  | nil => simp
  | cons block rest ih =>
    have first := shorter block
    rw [List.flatMap_cons, List.length_append]
    cases rest with
    | nil => simpa [fileText, Text.ofLines] using first
    | cons next rest =>
      rw [fileText_cons block (by simp), List.length_append, List.length_cons]
      omega

private theorem readFile_fileText {blocks : List Block} (writable : blocks.all Block.isWritable = true)
    (legible : ∀ block ∈ blocks, Legible block) : readFile (fileText blocks) = some (blocks.flatMap blockCalls) := by
  have fewer := length_calls_le blocks
  exact readCalls_fileText writable legible (Nat.le_refl _) (by omega)

end Blocks

section Entities

def itemData (items : RunList) : List Datum := items.map fun item => .string item.toString

/-- The lists by environment if there are two or more, otherwise the global list. -/
def runListing (role : Role) : Call :=
  if role.envRunLists.length ≤ 1 then ⟨"run_list", itemData role.runList⟩
  else ⟨"env_run_lists", [.hash (role.envRunLists.map fun entry => (entry.1, .array (itemData entry.2)))]⟩

def attributeData (attributes : Attributes) : Datum := .hash (attributes.map fun entry => (entry.1, datum entry.2))

/-- What the file of an entity is to say. -/
def entityCalls : Entity → List Call
  | .role role =>
    [⟨"name", [.string role.name]⟩, ⟨"description", [.string role.description]⟩,
      ⟨"default_attributes", [attributeData role.defaultAttributes]⟩,
      ⟨"override_attributes", [attributeData role.overrideAttributes]⟩, runListing role]
  | .environment environment =>
    [⟨"name", [.string environment.name]⟩, ⟨"description", [.string environment.description]⟩] ++
    environment.cookbookVersions.map (fun entry => ⟨"cookbook", [.string entry.1, .string entry.2]⟩) ++
    [⟨"default_attributes", [attributeData environment.defaultAttributes]⟩,
      ⟨"override_attributes", [attributeData environment.overrideAttributes]⟩]

private theorem datum_values (items : RunList) : items.values.map datum = itemData items := by
  simp [RunList.values, itemData, datum]

private theorem calls_runList (role : Role) :
    blockCalls (.call role.runListCall.1 role.runListCall.2) = [runListing role] := by
  by_cases single : role.envRunLists.length ≤ 1
  · simp [Role.runListCall, Role.writesByEnvironment, runListing, blockCalls, single, Nat.not_lt.mpr single, datum_values]
  · simp [Role.runListCall, Role.writesByEnvironment, runListing, blockCalls, single, Nat.lt_of_not_le single, datum,
      entriesOf_eq, dataOf_eq, datum_values]

private theorem calls_entityBlocks (entity : Entity) :
    (entityBlocks entity).flatMap blockCalls = entityCalls entity := by
  cases entity with
  | role role =>
    rw [entityBlocks, roleBlocks, List.flatMap_append, List.flatMap_singleton, calls_runList]
    simp [entityCalls, blockCalls, attributeData, datum, entriesOf_eq]
  | environment environment =>
    have cookbooks : ((environment.cookbookVersions.map cookbookBlock).flatMap blockCalls) =
        environment.cookbookVersions.map fun entry => ⟨"cookbook", [.string entry.1, .string entry.2]⟩ := by
      rw [List.flatMap_map, List.map_eq_flatMap]
      rfl
    rw [entityBlocks, environmentBlocks, List.flatMap_append, List.flatMap_append, List.flatMap_append, cookbooks]
    simp [entityCalls, blockCalls, attributeData, datum, entriesOf_eq]

private theorem keyed_runList (items : RunList) : ∀ value ∈ items.values, Keyed value := by
  intro value member
  obtain ⟨item, _, rfl⟩ := List.mem_map.mp member
  rfl

private theorem legible_runList {role : Role} (unique : role.envRunLists.Unique) :
    Legible (.call role.runListCall.1 role.runListCall.2) := by
  unfold Role.runListCall
  split
  · intro argument member
    rw [List.mem_singleton.mp member, keyed_hash, Entries.Unique, List.map_map]
    refine ⟨unique, ?_⟩
    intro entry inside
    obtain ⟨source, _, rfl⟩ := List.mem_map.mp inside
    exact keyed_array.mpr (keyed_runList source.2)
  · exact keyed_runList role.runList

private theorem legible_entityBlocks {entity : Entity} (keyed : KeyedEntity entity) :
    ∀ block ∈ entityBlocks entity, Legible block := by
  have text (text : String) : Keyed (.string text) := rfl
  cases entity with
  | role role =>
    obtain ⟨defaults, overrides, unique⟩ := keyed
    simpa [entityBlocks, roleBlocks, legible_heading, legible_blank, legible_call, text, defaults, overrides]
      using legible_runList unique
  | environment environment =>
    obtain ⟨_, defaults, overrides⟩ := keyed
    have cookbooks : ∀ block ∈ environment.cookbookVersions.map cookbookBlock, Legible block := by
      refine List.forall_mem_map.mpr fun entry _ => legible_call.mpr ?_
      simp [text]
    rw [entityBlocks, environmentBlocks, List.forall_mem_append, List.forall_mem_append, List.forall_mem_append]
    refine ⟨⟨⟨?_, cookbooks⟩, ?_⟩, ?_⟩
    · simp [legible_blank, legible_call, text]
    · simp [legible_blank, legible_call, defaults]
    · simp [legible_call, overrides]

theorem readFile_entityBlocks {entity : Entity} (keyed : KeyedEntity entity) :
    readFile (fileText (entityBlocks entity)) = some (entityCalls entity) := by
  rw [← calls_entityBlocks]
  exact readFile_fileText (isWritable_entityBlocks entity) (legible_entityBlocks keyed)

/-- The file of an entity always comes about, and it reads back as the calls it is to make. -/
theorem source_reads (entity : Entity) (keyed : KeyedEntity entity) :
    ∃ text, entity.source = .ok text ∧ readFile text = some (entityCalls entity) :=
  ⟨_, entity_source entity, readFile_entityBlocks keyed⟩

/-- A role whose texts look like source, with two environments and nested attributes. -/
def intruder : Role where
  name := "web'\n)\nrun_list("
  description := "#{secret} \\"
  defaultAttributes := [("a", .array [.nil, .float ⟨0x7FF8000000000001⟩, .hash []]), ("b\t", .hash [("c", .unsigned 5)])]
  overrideAttributes := []
  runList := [⟨.recipe, "base", none⟩]
  envRunLists := [("_default", [⟨.recipe, "base", none⟩]), ("prod", [])]

theorem source_reads_intruder :
    KeyedEntity (.role intruder) ∧
      ∃ text, (Entity.role intruder).source = .ok text ∧ readFile text = some (entityCalls (.role intruder)) :=
  have keyed : KeyedEntity (.role intruder) := ⟨by decide, by decide, by decide⟩
  ⟨keyed, source_reads (.role intruder) keyed⟩

end Entities

end ChefDsl.Proofs.FileReading
