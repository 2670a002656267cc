import ChefDsl.Pattern.Basic
import ChefDsl.Text.Alphanumeric

/-! The beginnings of groups. A group may have a name or flags, and flags alone hold up to the end of the group
that they stand in. -/

namespace ChefDsl.Pattern

/-- What an opening parenthesis begins. -/
inductive Head where
  | group (mode : Mode) (name : Option Text)
  | directive (mode : Mode)
deriving DecidableEq

/-- A letter or a low line, and then also digits, points and brackets. -/
def isName : Text → Bool
  | [] => false
  | c :: rest =>
    (c == '_' || isAlphabetic c) &&
      rest.all fun c => c == '_' || c == '.' || c == '[' || c == ']' || isAlphanumeric c

/-- Flags are distinct letters, with a hyphen between those to be set and those to be cleared. -/
def areFlags (flags : Text) : Bool :=
  flags.all (['i', 'm', 's', 'U', 'u', 'R', 'x', '-'].contains ·) && flags.eraseDups.length == flags.length &&
    flags.getLast? != some '-'

namespace Mode

/-- The mode under flags. Those about lines and greed change nothing that a mode records. -/
def apply (mode : Mode) (flags : Text) : Mode :=
  let set := flags.takeWhile (· != '-')
  let choose (letter : Char) (current : Bool) : Bool :=
    if set.contains letter then true else current && !flags.contains letter
  ⟨choose 'u' mode.characters, choose 'i' mode.foldsCase, choose 'x' mode.spaced⟩

/-- Reads a name up to and with the angle that ends it. -/
def readName (mode : Mode) (text : Text) : Option (Head × Text) :=
  let name := text.takeWhile (· != '>')
  match text.drop name.length with
  | [] => none
  | _ :: rest => if isName name then some (.group mode (some name), rest) else none

def readFlags (mode : Mode) (text : Text) : Option (Head × Text) :=
  let flags := text.takeWhile fun c => c != ':' && c != ')'
  if !areFlags flags then none
  else
    match text.drop flags.length with
    | ':' :: rest => some (.group (mode.apply flags) none, rest)
    | ')' :: rest => if flags.isEmpty then none else some (.directive (mode.apply flags), rest)
    | _ => none

/-- Reads on after an opening parenthesis. -/
def readHead (mode : Mode) (text : Text) : Option (Head × Text) :=
  match mode.skipLayout text with
  | '?' :: 'P' :: '<' :: rest | '?' :: '<' :: rest => mode.readName rest
  | '?' :: rest => mode.readFlags rest
  | rest => some (.group mode none, rest)

end Mode
end ChefDsl.Pattern
