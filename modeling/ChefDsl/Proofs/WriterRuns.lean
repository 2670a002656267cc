import ChefDsl.Proofs.Checks
import ChefDsl.Proofs.SourceText

/-! The text of a writer, step by step. What a step adds depends on the step alone. A call checks all its arguments
before it writes anything, so one that is refused leaves the writer as it was, and the text is the concatenation of what
the steps add. Finishing cuts off the blanks at the end of it. -/

namespace ChefDsl.Proofs.WriterRuns
open Checks TextLines ValueLayout SourceText Source

section Statement

def run (steps : List Writer.Step) : Writer := steps.foldl Writer.after Writer.empty

/-- A call with its arguments on lines of their own, each as it is formatted one level in. -/
def callFragment (method : String) (arguments : List Value) : Text :=
  method.toList ++ ['(', '\n'] ++
    [',', '\n'].intercalate (arguments.map fun value => [' ', ' '] ++ value.format ⟨1⟩) ++ ['\n', ')', '\n']

/-- Whether a step can be done: only strings and hashes are arguments of a call. -/
def isAccepted : Writer.Step → Bool
  | .write _ | .newLine => true
  | .call _ arguments => arguments.all isArgument

/-- What a step adds to any text. -/
def fragment : Writer.Step → Text
  | .write text => text
  | .newLine => ['\n']
  | .call method arguments => if arguments.all isArgument then callFragment method arguments else []

/-- The values that are no arguments, by the name of their class. -/
inductive RefusedAs : Value → String → Prop where
  | nil : RefusedAs .nil "NilClass"
  | yes : RefusedAs (.bool true) "TrueClass"
  | no : RefusedAs (.bool false) "FalseClass"
  | integer (n : Int64) : RefusedAs (.integer n) "Integer"
  | unsigned (n : UInt64) : RefusedAs (.unsigned n) "Integer"
  | float (x : Binary64) : RefusedAs (.float x) "Float"
  | array (items : List Value) : RefusedAs (.array items) "Array"

def Refusal (value : Value) (error : Error) : Prop :=
  ∃ name, RefusedAs value name ∧ error = .unsupportedValueKind name

/-- The checks that a step is put to, from the left. -/
def refusals : Writer.Step → List (Error → Prop)
  | .write _ | .newLine => []
  | .call _ arguments => arguments.map Refusal

def EndsVisibly (text : Text) : Prop := ∀ c ∈ text.getLast?, isBlank c = false

/-- The longest front part of a text that does not end in a blank. -/
structure LongestVisible (text front : Text) : Prop where
  initial : front <+: text
  ends : EndsVisibly front
  longest : ∀ other, other <+: text → EndsVisibly other → other <+: front

end Statement

section Steps
variable (writer : Writer)

private theorem refusedAs_iff {value : Value} {name : String} :
    RefusedAs value name ↔ isArgument value = false ∧ name = value.className := by
  constructor
  · intro refused
    cases refused with
    | _ => exact ⟨rfl, rfl⟩
  · intro ⟨refused, named⟩
    subst named
    cases value with
    | nil => exact .nil
    | bool truth =>
      cases truth with
      | true => exact .yes
      | false => exact .no
    | integer n => exact .integer n
    | unsigned n => exact .unsigned n
    | float x => exact .float x
    | array items => exact .array items
    | string text => contradiction
    | hash entries => contradiction

private theorem refusal_iff {value : Value} {error : Error} :
    Refusal value error ↔ ¬ isArgument value = true ∧ error = .unsupportedValueKind value.className := by
  simp [Refusal, refusedAs_iff, and_assoc]

private theorem callText_eq (method : String) (arguments : List Value) :
    callText method arguments ++ ['\n'] = callFragment method arguments := by
  have placed : arguments.map argumentText = arguments.map fun value => [' ', ' '] ++ value.format ⟨1⟩ := by
    apply List.map_congr_left
    intro value _
    rw [argumentText, format_eq]
    rfl
  rw [callText, argumentsText, placed, callFragment]
  simp

private theorem decides_argument (value : Value) :
    Decides (Writer.argument value) (isArgument value = true) (Refusal value) := by
  apply Decides.congr _ Iff.rfl fun _ => refusal_iff.symm
  cases value with
  | string text => exact Decides.passed rfl rfl _
  | hash entries => exact Decides.passed rfl rfl _
  | _ => exact Decides.failed rfl (by simp [isArgument])

private theorem decides_arguments (arguments : List Value) :
    Decides (arguments.mapM Writer.argument) (arguments.all isArgument = true)
      (FirstFault (arguments.map Refusal)) := by
  apply (Decides.mapM decides_argument arguments).congr List.all_eq_true.symm
  exact fun _ => Iff.rfl

private theorem call_refused (method : String) {arguments : List Value} {error : Error}
    (refused : arguments.mapM Writer.argument = .error error) :
    writer.apply (Writer.call method arguments) = (.error error, writer) := by
  rw [Writer.call, refused]
  rfl

private theorem call_accepted (method : String) {arguments : List Value} (accepted : arguments.all isArgument = true) :
    writer.apply (Writer.call method arguments) = (.ok (), ⟨writer.text ++ callFragment method arguments⟩) := by
  rw [← callText_eq]
  exact adds_call method accepted writer

/-- What comes of a call is what comes of its arguments. -/
theorem perform_call (method : String) (arguments : List Value) :
    writer.perform (.call method arguments) = (arguments.mapM Writer.argument).map fun _ => () := by
  cases found : arguments.mapM Writer.argument with
  | error error => exact congrArg Prod.fst (call_refused writer method found)
  | ok texts =>
    have accepted := (decides_arguments arguments).accepts.mp ⟨texts, found⟩
    exact congrArg Prod.fst (call_accepted writer method accepted)

private theorem decides_perform (step : Writer.Step) :
    Decides (writer.perform step) (isAccepted step = true) (FirstFault (refusals step)) := by
  cases step with
  | write text => exact (Decides.ok _).congr (by simp [isAccepted]) fun _ => Iff.rfl
  | newLine => exact (Decides.ok _).congr (by simp [isAccepted]) fun _ => Iff.rfl
  | call method arguments =>
    rw [perform_call]
    exact (decides_arguments arguments).map _

private theorem after_eq (step : Writer.Step) : writer.after step = ⟨writer.text ++ fragment step⟩ := by
  cases step with
  | write text => rfl
  | newLine => rfl
  | call method arguments =>
    cases found : arguments.mapM Writer.argument with
    | ok texts =>
      have accepted := (decides_arguments arguments).accepts.mp ⟨texts, found⟩
      rw [fragment, if_pos accepted]
      exact congrArg Prod.snd (call_accepted writer method accepted)
    | error error =>
      have refused : ¬ arguments.all isArgument = true := by
        intro accepted
        obtain ⟨texts, other⟩ := (decides_arguments arguments).accepts.mpr accepted
        rw [found] at other
        contradiction
      rw [fragment, if_neg refused, List.append_nil]
      exact congrArg Prod.snd (call_refused writer method found)

end Steps

section Runs

private theorem foldl_after (writer : Writer) (steps : List Writer.Step) :
    steps.foldl Writer.after writer = ⟨writer.text ++ steps.flatMap fragment⟩ := by
  induction steps generalizing writer with
  | nil => simp
  | cons step rest ih =>
    rw [List.foldl_cons, ih, after_eq]
    simp

private theorem run_eq (steps : List Writer.Step) : run steps = ⟨steps.flatMap fragment⟩ :=
  foldl_after Writer.empty steps

private theorem fragment_refused {step : Writer.Step} (refused : isAccepted step = false) : fragment step = [] := by
  cases step with
  | write text => contradiction
  | newLine => contradiction
  | call method arguments =>
    rw [isAccepted] at refused
    rw [fragment, refused]
    rfl

private theorem flatMap_accepted (steps : List Writer.Step) :
    (steps.filter isAccepted).flatMap fragment = steps.flatMap fragment := by
  induction steps with
  | nil => rfl
  | cons step rest ih =>
    cases accepted : isAccepted step with
    | true => rw [List.filter_cons_of_pos accepted, List.flatMap_cons, List.flatMap_cons, ih]
    | false => rw [List.filter_cons_of_neg (by simp [accepted]), List.flatMap_cons, fragment_refused accepted, ih,
        List.nil_append]

end Runs

/-- What is cut off holds blanks only, so every longer front part ends in one of them. -/
theorem longestVisible_trimEnd (text : Text) : LongestVisible text text.trimEnd := by
  refine ⟨Text.trimEnd_prefix text, fun c => isBlank_of_getLast_trimEnd text, ?_⟩
  intro other initial ends
  obtain ⟨blanks, split, blank⟩ := exists_trimEnd text
  rcases List.prefix_or_prefix_of_prefix initial (Text.trimEnd_prefix text) with shorter | ⟨more, rfl⟩
  · exact shorter
  rcases List.eq_nil_or_concat more with rfl | ⟨before, c, rfl⟩
  · simp
  · have inside : before ++ [c] <+: blanks := by
      rw [← List.prefix_append_right_inj text.trimEnd, ← split]
      simpa using initial
    have visible : isBlank c = false := ends c (by simp [← List.append_assoc])
    rw [blank c (inside.subset (by simp))] at visible
    contradiction

/-- Any steps leave a fresh writer with what they add one after another, the same as if those that are refused had not
been tried. A step adds the same to any writer, whatever came of it, and it is refused for its first argument that is
neither a string nor a hash, and for nothing else. Finishing gives the longest front part of the text that does not end
in a blank. -/
theorem runs_concatenate :
    (∀ steps, (run steps).text = steps.flatMap fragment ∧ run (steps.filter isAccepted) = run steps) ∧
      (∀ (writer : Writer) (step : Writer.Step),
        Decides (writer.apply step.writing).1 (isAccepted step = true) (FirstFault (refusals step)) ∧
          (writer.apply step.writing).2 = ⟨writer.text ++ fragment step⟩) ∧
      ∀ writer : Writer, LongestVisible writer.text writer.finish := by
  refine ⟨?_, ?_, fun writer => longestVisible_trimEnd writer.text⟩
  · intro steps
    rw [run_eq, run_eq, flatMap_accepted]
    exact ⟨rfl, rfl⟩
  · intro writer step
    exact ⟨decides_perform writer step, after_eq writer step⟩

end ChefDsl.Proofs.WriterRuns
