import ChefDsl.Pattern.Basic

/-! The smallest parts of a pattern, and the escapes that write them. No tables of characters are at hand, so
among characters a letter has no other case, and there are no classes by kind and no borders of words. Among
bytes these are known for ASCII, and nothing may match a part of a character. -/

namespace ChefDsl.Pattern

inductive Primitive where
  /-- A character. One that is written with two hexadecimal digits can be a byte. -/
  | literal (c : Char) (asByte : Bool)
  | edge
  | wordBorder
  /-- Digits, blanks or letters of words, or everything else. -/
  | kind (negated : Bool)
deriving DecidableEq

/-- The character of so many hexadecimal digits. -/
def readHex (mode : Mode) : Nat → Nat → Text → Option (Nat × Text)
  | 0, value, text => some (value, text)
  | count + 1, value, text =>
    match mode.skipLayout text with
    | [] => none
    | c :: rest => do readHex mode count (value * 16 + (← hexValue? c)) rest

def readCodePoint (mode : Mode) (count : Nat) (text : Text) : Option (Primitive × Text) := do
  let (value, rest) ← readHex mode count 0 text
  if value.isValidChar then some (.literal (Char.ofNat value) (count = 2), rest) else none

/-- Letters that stand for a control character after a backslash. -/
def controlEscapes : List (Char × Char) :=
  [('a', '\x07'), ('f', '\x0c'), ('t', '\t'), ('n', '\n'), ('r', '\r'), ('v', '\x0b')]

/-- Reads what follows a backslash. Every ASCII character but letters, digits and angles may stand for itself. -/
def readEscape (mode : Mode) : Text → Option (Primitive × Text)
  | [] => none
  | c :: rest =>
    match c with
    | 'x' => readCodePoint mode 2 rest
    | 'u' => readCodePoint mode 4 rest
    | 'U' => readCodePoint mode 8 rest
    | 'd' | 's' | 'w' => some (.kind false, rest)
    | 'D' | 'S' | 'W' => some (.kind true, rest)
    | 'A' | 'z' => some (.edge, rest)
    | 'b' | 'B' | '<' | '>' => some (.wordBorder, rest)
    | c =>
      match controlEscapes.lookup c with
      | some control => some (.literal control false, rest)
      | none => if c.toNat < 0x80 && !c.isAlphanum then some (.literal c false, rest) else none

namespace Mode

/-- Whether a primitive can stand in a pattern outside brackets. -/
def admits (mode : Mode) : Primitive → Bool
  | .literal c asByte => if mode.characters then !mode.foldsCase else !(asByte && 0x80 ≤ c.toNat)
  | .edge => true
  | .wordBorder => !mode.characters
  | .kind negated => !mode.characters && !negated

/-- Whether a primitive can stand in brackets. -/
def admitsMember (mode : Mode) : Primitive → Bool
  | .literal c _ => if mode.characters then !mode.foldsCase else c.toNat < 0x80
  | .edge | .wordBorder => false
  | .kind negated => !mode.characters && !negated

end Mode
end ChefDsl.Pattern
