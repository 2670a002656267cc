import ChefDsl.Decimal.Layout
import ChefDsl.Literal
import ChefDsl.Value.Basic

/-! Values as DSL literals. A container writes each entry on lines of its own, one level in. Entries are laid
out from column zero and shifted by the container around them, which is sound because no literal spans lines. -/

namespace ChefDsl.Value

/-- Floats stand positionally from 0.0001 up to below 10^16, a tie between digits goes upward, and exponents have
no plus sign. -/
def floatLayout : Decimal.Layout := ⟨-4, 16, .up, false⟩

def floatText (x : Binary64) : Text :=
  if x.isNaN then "Float::NAN".toList
  else
    (if x.isNegative then ['-'] else []) ++
      if x.isInfinite then "Float::INFINITY".toList
      else floatLayout.shortest x.magnitude

def arrow : Text := " => ".toList

/-- One entry per line between the brackets, or the bare brackets where there is none. -/
def block (opening closing : Char) (entries : List Text) : Text :=
  if entries.isEmpty then [opening, closing]
  else
    let inner := (Level.mk 0).nested.indent
    [opening, '\n'] ++ [',', '\n'].intercalate (entries.map (Text.indentLines inner)) ++ ['\n', closing]

mutual

/-- The literal as it stands at column zero. -/
def literal : Value → Text
  | nil => "nil".toList
  | bool true => "true".toList
  | bool false => "false".toList
  | integer n => Decimal.integerText n.toInt
  | unsigned n => Nat.toDigits 10 n.toNat
  | float x => floatText x
  | string text => Literal.quote text.toList
  | array items => block '[' ']' (literals items)
  | hash entries => block '\x7b' '\x7d' (pairs entries)

def literals : List Value → List Text
  | [] => []
  | item :: rest => literal item :: literals rest

def pairs : List (String × Value) → List Text
  | [] => []
  | (key, value) :: rest => (Literal.quote key.toList ++ arrow ++ literal value) :: pairs rest

end

/-- The literal at a level: the caller places its first line, and the others are shifted there. -/
def format (value : Value) (level : Level) : Text :=
  Text.indentFollowing level.indent (literal value)

/-- The literal at a level whose depth is held in 64 bits. A literal on one line needs the indent as well. -/
def format? (overflow : Overflow) (value : Value) (depth : UInt64) : Option Text :=
  (Level.indent? overflow depth).map fun indent => Text.indentFollowing indent (literal value)

end ChefDsl.Value
