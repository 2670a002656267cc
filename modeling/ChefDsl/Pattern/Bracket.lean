import ChefDsl.Pattern.Escape

/-! Sets of characters between brackets. A set lists characters, ranges and further sets, and operators with two
signs combine what stands before and after them. -/

namespace ChefDsl.Pattern

/-- A set that is being read. At its start hyphens stand for themselves, and so does a closing bracket. The
depths are those of the members since the last operator, and of what that operator combines them with. -/
structure Bracket where
  atStart : Bool
  members : List Nat
  operand : Option Nat
deriving DecidableEq

namespace Bracket

/-- Reads the opening of a set. Among bytes a negated set would match parts of characters. -/
def open? (mode : Mode) (text : Text) : Option (Bracket × Text) :=
  match mode.skipLayout text with
  | '^' :: rest => if mode.characters then some (⟨true, [], none⟩, rest) else none
  | rest => some (⟨true, [], none⟩, rest)

def add (bracket : Bracket) (depth : Nat) : Bracket := { bracket with members := depth :: bracket.members }

/-- The depth of what the brackets hold. -/
def depth (bracket : Bracket) : Nat :=
  match bracket.operand with
  | none => joined bracket.members
  | some operand => max operand (joined bracket.members) + 1

/-- The set with everything so far before an operator. -/
def combine (bracket : Bracket) : Bracket := ⟨false, [], some bracket.depth⟩

end Bracket

/-- Names of sets of ASCII characters, which stand in further brackets with colons. -/
def asciiSets : List String :=
  ["alnum", "alpha", "ascii", "blank", "cntrl", "digit", "graph", "lower", "print", "punct", "space", "upper",
    "word", "xdigit"]

/-- Reads a named set without its opening bracket. It tells whether the set is negated. -/
def asciiSet? : Text → Option (Bool × Text)
  | ':' :: rest =>
    let negated := rest.head? = some '^'
    let word := if negated then rest.tail else rest
    let name := word.takeWhile (· != ':')
    match word.drop name.length with
    | ':' :: ']' :: later => if asciiSets.contains (String.ofList name) then some (negated, later) else none
    | _ => none
  | _ => none

namespace Mode

def admitsAsciiSet (mode : Mode) (negated : Bool) : Bool :=
  if mode.characters then !mode.foldsCase else !negated

def readMember (mode : Mode) (c : Char) (rest : Text) : Option (Primitive × Text) :=
  if c = '\\' then readEscape mode rest else some (.literal c false, rest)

def isRange : Primitive → Primitive → Bool
  | .literal first _, .literal last _ => first ≤ last
  | _, _ => false

/-- Passes over a member of a set, or over a range of them. A hyphen before a closing bracket or before another
hyphen makes no range. -/
def afterMember (mode : Mode) (c : Char) (rest : Text) : Option Text := do
  let (first, rest) ← mode.readMember c rest
  if !mode.admitsMember first then none
  else
    match mode.skipLayout rest with
    | '-' :: later =>
      let next := mode.peek later
      if next = some ']' || next = some '-' then some ('-' :: later)
      else
        match mode.skipLayout later with
        | [] => none
        | c :: later => do
          let (last, rest) ← mode.readMember c later
          if mode.admitsMember last && isRange first last then some rest else none
    | rest => some rest

end Mode
end ChefDsl.Pattern
