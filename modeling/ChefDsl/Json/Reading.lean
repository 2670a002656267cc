import ChefDsl.Text.Lines

/-! Reading JSON text. A step takes something off the front of a text and leaves a suffix of it. A fault is a
cause and a place, the place given by what was still unread there, and an error states that place by line and
column. Columns count bytes of the UTF-8 form, so a fault may lie inside a character. -/

namespace ChefDsl.Json

inductive Cause where
  | unfinishedValue
  | unfinishedList
  | unfinishedObject
  | unfinishedString
  | expectedWord
  | expectedValue
  | expectedListSeparator
  | expectedObjectSeparator
  | expectedColon
  | trailingComma
  | keyNotString
  | trailingText
  | tooDeep
  | invalidNumber
  | numberOutOfRange
  | controlCharacter
  | invalidEscape
  | loneSurrogate
  | unfinishedSurrogate
deriving DecidableEq

def Cause.message : Cause → String
  | unfinishedValue => "EOF while parsing a value"
  | unfinishedList => "EOF while parsing a list"
  | unfinishedObject => "EOF while parsing an object"
  | unfinishedString => "EOF while parsing a string"
  | expectedWord => "expected ident"
  | expectedValue => "expected value"
  | expectedListSeparator => "expected `,` or `]`"
  | expectedObjectSeparator => "expected `,` or `\x7d`"
  | expectedColon => "expected `:`"
  | trailingComma => "trailing comma"
  | keyNotString => "key must be a string"
  | trailingText => "trailing characters"
  | tooDeep => "recursion limit exceeded"
  | invalidNumber => "invalid number"
  | numberOutOfRange => "number out of range"
  | controlCharacter => "control character (\\u0000-\\u001F) found while parsing a string"
  | invalidEscape => "invalid escape"
  | loneSurrogate => "lone leading surrogate in hex escape"
  | unfinishedSurrogate => "unexpected end of hex escape"

/-- What stopped a reader: the fault lies `inside` bytes into the unread text. -/
structure Fault where
  cause : Cause
  unread : Text
  inside : Nat

/-- What a step found and what it left. -/
structure Step (α : Type) (text : Text) where
  value : α
  rest : Text
  left : rest <:+ text

abbrev Reading (α : Type) (text : Text) := Except Fault (Step α text)

/-- A fault at the character that comes next, or at the end of the text. -/
def faultAt {α : Type} {text : Text} (cause : Cause) (unread : Text) : Reading α text :=
  .error ⟨cause, unread, min 1 unread.length⟩

/-- A fault right after what was read. -/
def faultAfter {α : Type} {text : Text} (cause : Cause) (unread : Text) : Reading α text :=
  .error ⟨cause, unread, 0⟩

def found {α : Type} {text rest : Text} (value : α) (left : rest <:+ text) : Reading α text :=
  .ok ⟨value, rest, left⟩

/-- A step on the later part of a text is a step on the whole. -/
def Step.extend {α : Type} {part text : Text} (step : Step α part) (left : part <:+ text) : Step α text :=
  ⟨step.value, step.rest, step.left.trans left⟩

/-- Blanks between the tokens of a document. -/
def isSpace (c : Char) : Bool := c == ' ' || c == '\n' || c == '\t' || c == '\r'

def skipSpace (text : Text) : Text := text.dropWhile isSpace

theorem skipSpace_suffix (text : Text) : skipSpace text <:+ text := List.dropWhile_suffix isSpace

/-- A place in a text: the line, and the bytes since it began. -/
structure Position where
  line : Nat
  column : Nat
deriving DecidableEq

/-- Moves over a number of bytes of the text. -/
def Position.advance (position : Position) : Text → Nat → Position
  | _, 0 | [], _ => position
  | c :: rest, count =>
    if c = '\n' then advance ⟨position.line + 1, 0⟩ rest (count - 1)
    else if count < c.utf8Size then ⟨position.line, position.column + count⟩
    else advance ⟨position.line, position.column + c.utf8Size⟩ rest (count - c.utf8Size)

structure Error where
  cause : Cause
  position : Position
deriving DecidableEq

def Fault.locate (fault : Fault) (text : Text) : Error :=
  let offset := text.byteSize - fault.unread.byteSize + fault.inside
  ⟨fault.cause, (Position.mk 1 0).advance text offset⟩

def Error.message (error : Error) : String :=
  s!"{error.cause.message} at line {error.position.line} column {error.position.column}"

end ChefDsl.Json
