import ChefDsl.Pattern.Bracket
import ChefDsl.Pattern.Group

/-! Reading a pattern to see whether it can be matched with. The text is gone through once from left to right;
what is still open is kept on two stacks, one of groups and one of brackets. -/

namespace ChefDsl.Pattern

/-- The parts of a concatenation so far, by their depths, the last one first. A repetition needs a last part that
is no directive. -/
structure Branch where
  depths : List Nat
  repeatable : Bool
deriving DecidableEq

namespace Branch

def empty : Branch := ⟨[], false⟩

def add (branch : Branch) (depth : Nat) : Branch := ⟨depth :: branch.depths, true⟩

def addDirective (branch : Branch) : Branch := ⟨0 :: branch.depths, false⟩

/-- Every repetition is a part around the part that it repeats. -/
def repeated? (branch : Branch) : Option Branch :=
  match branch.depths with
  | [] => none
  | depth :: depths => if branch.repeatable then some ⟨(depth + 1) :: depths, true⟩ else none

end Branch

/-- A group as far as it has been read, with the depths of its branches before the last one. -/
structure Group where
  mode : Mode
  earlier : List Nat
  branch : Branch
deriving DecidableEq

namespace Group

def begin (mode : Mode) : Group := ⟨mode, [], .empty⟩

def depth (group : Group) : Nat :=
  if group.earlier.isEmpty then joined group.branch.depths
  else joined (joined group.branch.depths :: group.earlier)

def addPart (group : Group) (depth : Nat) : Group := { group with branch := group.branch.add depth }

def beginBranch (group : Group) : Group :=
  { group with earlier := joined group.branch.depths :: group.earlier, branch := .empty }

end Group

/-- What has been read of a pattern. The pattern itself is the outermost group. Within brackets the stack of
brackets is not empty. -/
structure State where
  group : Group
  outer : List Group
  brackets : List Bracket
  names : List Text
deriving DecidableEq

namespace State

def initial : State := ⟨.begin .initial, [], [], []⟩

def mode (state : State) : Mode := state.group.mode

def addPart (state : State) (depth : Nat) : State := { state with group := state.group.addPart depth }

def openGroup (state : State) (rest : Text) : Option (State × Text) := do
  let (head, rest) ← state.mode.readHead rest
  match head with
  | .directive mode =>
    let group := { state.group with mode, branch := state.group.branch.addDirective }
    return ({ state with group }, rest)
  | .group mode name =>
    if name.any state.names.contains then none
    else
      let names := name.toList ++ state.names
      return ({ state with group := .begin mode, outer := state.group :: state.outer, names }, rest)

def closeGroup (state : State) : Option State :=
  match state.outer with
  | [] => none
  | group :: outer => some { state with group := group.addPart (state.group.depth + 1), outer }

/-- A question mark right after a repetition belongs to it. -/
def addRepetition (state : State) (rest : Text) : Option (State × Text) := do
  let branch ← state.group.branch.repeated?
  let group := { state.group with branch }
  return ({ state with group }, if rest.head? = some '?' then rest.tail else rest)

def addPrimitive (state : State) (primitive : Primitive) : Option State :=
  if state.mode.admits primitive then some (state.addPart 0) else none

def openBracket (state : State) (rest : Text) : Option (State × Text) := do
  let (bracket, rest) ← Bracket.open? state.mode rest
  return ({ state with brackets := bracket :: state.brackets }, rest)

/-- Ends the innermost brackets, which become a member of those around them or a part of the pattern. -/
def closeBracket (state : State) (bracket : Bracket) (outer : List Bracket) : State :=
  match outer with
  | [] => { state with brackets := [] }.addPart (bracket.depth + 1)
  | around :: outer => { state with brackets := around.add (bracket.depth + 1) :: outer }

/-- Reads on outside brackets. No repetition with counts can be read, for nothing can hold its closing brace. -/
def readPart (state : State) (c : Char) (rest : Text) : Option (State × Text) :=
  match c with
  | '(' => state.openGroup rest
  | ')' => do return (← state.closeGroup, rest)
  | '|' => some ({ state with group := state.group.beginBranch }, rest)
  | '[' => state.openBracket rest
  | '?' | '*' | '+' => state.addRepetition rest
  | '\x7b' => none
  | '\\' => do
    let (primitive, rest) ← readEscape state.mode rest
    return (← state.addPrimitive primitive, rest)
  | '.' => if state.mode.characters then some (state.addPart 0, rest) else none
  | '^' | '$' => do return (← state.addPrimitive .edge, rest)
  | c => do return (← state.addPrimitive (.literal c false), rest)

/-- Reads on within brackets. -/
def readMember (state : State) (bracket : Bracket) (outer : List Bracket) (c : Char) (rest : Text) :
    Option (State × Text) :=
  let continued (bracket : Bracket) : State := { state with brackets := bracket :: outer }
  let later := { bracket with atStart := false }
  if bracket.atStart && (c == '-' || (c == ']' && bracket.members.isEmpty)) then
    if state.mode.admitsMember (.literal c false) then
      some (continued { bracket.add 0 with atStart := c == '-' }, rest)
    else none
  else if c = '[' then
    match asciiSet? rest with
    | some (negated, rest) =>
      if state.mode.admitsAsciiSet negated then some (continued (later.add 0), rest) else none
    | none => (continued later).openBracket rest
  else if c = ']' then some (state.closeBracket bracket outer, rest)
  else if (c = '&' || c = '-' || c = '~') && rest.head? = some c then some (continued bracket.combine, rest.tail)
  else do return (continued (later.add 0), ← state.mode.afterMember c rest)

def step (state : State) (c : Char) (rest : Text) : Option (State × Text) :=
  match state.brackets with
  | [] => state.readPart c rest
  | bracket :: outer => state.readMember bracket outer c rest

/-- Reads the text after passing over some characters, which an earlier step has already dealt with. -/
def read (state : State) (passed : Nat) : Text → Option State
  | [] => some state
  | c :: rest =>
    match passed with
    | passed + 1 => read state passed rest
    | 0 =>
      match state.mode.skipLayout (c :: rest) with
      | [] => some state
      | next :: following => do
        let (state, left) ← state.step next following
        read state (rest.length - left.length) rest

/-- Whether a pattern may end here. -/
def isComplete (state : State) : Bool :=
  state.brackets.isEmpty && state.outer.isEmpty && state.group.depth ≤ greatestDepth

end State

/-- Whether the text is a pattern that can be matched with. -/
def isPattern (text : Text) : Bool := (State.initial.read 0 text).any State.isComplete

end ChefDsl.Pattern
