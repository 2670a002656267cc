import ChefDsl.Text.Lines
import ChefDsl.Text.Unprintable

/-! Strings as diagnostics show them: between double quotes, with every character visible. -/

namespace ChefDsl.Text

def escapeVisible (c : Char) : Text :=
  match c with
  | '\x00' => ['\\', '0']
  | '\t' => ['\\', 't']
  | '\r' => ['\\', 'r']
  | '\n' => ['\\', 'n']
  | '"' => ['\\', '"']
  | '\\' => ['\\', '\\']
  | c => if isUnprintable c then ['\\', 'u', '{'] ++ Nat.toDigits 16 c.toNat ++ ['}'] else [c]

def escaped (text : Text) : Text := ['"'] ++ text.flatMap escapeVisible ++ ['"']

end ChefDsl.Text
