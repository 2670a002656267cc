import ChefDsl.Text.Class

/-! String literals of the DSL. A single-quoted literal takes every character as it stands apart from the
backslash and the quote, and so it cannot show a control character. A double-quoted literal names those by
escapes, and also escapes `#`, which would otherwise open an interpolation. -/

namespace ChefDsl.Literal

def escapeSingle (c : Char) : Text :=
  if c = '\\' ∨ c = '\'' then ['\\', c] else [c]

def escapeDouble (c : Char) : Text :=
  match c with
  | '\\' => ['\\', '\\']
  | '"' => ['\\', '"']
  | '#' => ['\\', '#']
  | '\n' => ['\\', 'n']
  | '\t' => ['\\', 't']
  | '\r' => ['\\', 'r']
  | '\x1b' => ['\\', 'e']
  | c => if isControl c then ['\\', 'u', '{'] ++ Nat.toDigits 16 c.toNat ++ ['}'] else [c]

def singleQuoted (text : Text) : Text := ['\''] ++ text.flatMap escapeSingle ++ ['\'']

def doubleQuoted (text : Text) : Text := ['"'] ++ text.flatMap escapeDouble ++ ['"']

/-- Single quotes wherever they can express the text. -/
def quote (text : Text) : Text :=
  if text.any isControl then doubleQuoted text else singleQuoted text

end ChefDsl.Literal
