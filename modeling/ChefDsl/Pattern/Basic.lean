import ChefDsl.Text.Class

/-! Patterns are regular expressions. What can stand in a stretch of a pattern depends on the mode there, and a
pattern may be nested only so deep. -/

namespace ChefDsl.Pattern

/-- How a stretch of a pattern is understood: as one about characters or about the bytes of their UTF-8 form, as
one in which letters stand for both of their cases, and as one that is spaced out by blanks and comments. -/
structure Mode where
  characters : Bool
  foldsCase : Bool
  spaced : Bool
deriving DecidableEq

namespace Mode

def initial : Mode := ⟨true, false, false⟩

/-- Leaves blanks and comments out. A comment begins with a number sign and ends with its line. -/
def afterLayout (inComment : Bool) : Text → Text
  | [] => []
  | c :: rest =>
    if inComment then afterLayout (c != '\n') rest
    else if isBlank c then afterLayout false rest
    else if c = '#' then afterLayout true rest
    else c :: rest

def skipLayout (mode : Mode) (text : Text) : Text := if mode.spaced then afterLayout false text else text

/-- The character that comes next once blanks and the sign of a comment are left out. -/
def peek (mode : Mode) (text : Text) : Option Char :=
  if mode.spaced then
    match text.dropWhile isBlank with
    | '#' :: rest => (rest.dropWhile isBlank).head?
    | rest => rest.head?
  else text.head?

end Mode

/-- The depth of several parts side by side. One part alone is as deep as it is, and none is not deep at all. -/
def joined : List Nat → Nat
  | [] => 0
  | [depth] => depth
  | depths => depths.foldl max 0 + 1

/-- The depth that a pattern may have. -/
def greatestDepth : Nat := 250

end ChefDsl.Pattern
