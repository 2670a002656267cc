import ChefDsl.Error
import ChefDsl.Value.Layout

/-! Writing DSL source. A call is the name of a method with its arguments on lines of their own, and only
strings and hashes are arguments. A step that fails ends what it is part of, but what was written before it stays
in the writer. -/

namespace ChefDsl.Source

structure Writer where
  text : Text
deriving DecidableEq

/-- What can be done with a writer and may fail. -/
abbrev Writing := ExceptT Error (StateM Writer)

namespace Writer

def empty : Writer := ⟨[]⟩

/-- What comes of it, and the writer as it is afterwards in either case. -/
def apply (writer : Writer) (writing : Writing Unit) : Except Error Unit × Writer := writing.run.run writer

def write (text : Text) : Writing Unit := modify fun writer => ⟨writer.text ++ text⟩

def newLine : Writing Unit := write ['\n']

def argument (value : Value) : Except Error Text :=
  match value with
  | .string text => .ok (Literal.quote text.toList)
  | .hash _ => .ok (value.format ⟨0⟩)
  | other => .error (.unsupportedValueKind other.className)

/-- The arguments are settled before the first character is written. -/
def call (method : String) (arguments : List Value) : Writing Unit := do
  let arguments ← (arguments.mapM argument : Except Error (List Text))
  let indent := (Level.mk 0).nested.indent
  write method.toList
  write ['(', '\n']
  write (Text.indentLines indent ([',', '\n'].intercalate arguments))
  write ['\n', ')']
  newLine

/-- The text without its trailing blanks. -/
def finish (writer : Writer) : Text := writer.text.trimEnd

/-- Finishes what is written from the beginning. Of what fails no text is given. -/
def finished (draft : Writing Unit) : Except Error Text :=
  match empty.apply draft with
  | (.ok (), writer) => .ok writer.finish
  | (.error error, _) => .error error

inductive Step where
  | write (text : Text)
  | newLine
  | call (method : String) (arguments : List Value)

def Step.writing : Step → Writing Unit
  | .write text => Writer.write text
  | .newLine => Writer.newLine
  | .call method arguments => Writer.call method arguments

def perform (writer : Writer) (step : Step) : Except Error Unit := (writer.apply step.writing).1

/-- The writer after a step, whatever came of it. -/
def after (writer : Writer) (step : Step) : Writer := (writer.apply step.writing).2

end Writer
end ChefDsl.Source
