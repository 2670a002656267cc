import ChefDsl.CommandLine.Event
import ChefDsl.Pattern.Reading

/-! The filter that chooses from the log. A filter is a list of directives, each a verbosity for the targets that
start with a text, and possibly only for events with a certain field. The directive that says most about an event
decides, and the last of several that say the same. -/

namespace ChefDsl.CommandLine

/-- Which events of its targets a directive is about. A span is a stretch of a run that events fall into. No run
has any, so no event falls into one. -/
inductive Scope where
  | all
  | field (name : Text)
  | span
deriving DecidableEq

/-- A directive with an empty target holds for every target. -/
structure Directive where
  target : Text
  scope : Scope
  verbosity : Nat
deriving DecidableEq

namespace Directive

def verbosityNames : List (String × Nat) :=
  [("off", 0), ("error", 1), ("warn", 2), ("info", 3), ("debug", 4), ("trace", 5)]

/-- A number up to five, or a name in which capitals count as small letters. -/
def verbosity? (word : Text) : Option Nat :=
  let digits := match word with
    | '+' :: digits => digits
    | digits => digits
  if !digits.isEmpty && digits.all isDigit then
    let number := digits.foldl (fun total digit => 10 * total + (digit.toNat - '0'.toNat)) 0
    if number ≤ 5 then some number else none
  else verbosityNames.lookup (String.ofList (word.map Char.toLower))

/-- A directive begins with a letter, a number, one of three marks, or the bracket of a scope. -/
def opens : Text → Bool
  | [] => false
  | c :: _ => c == '[' || c == '-' || c == ':' || c == '_' || isAlphanumeric c

/-- An unsigned number with a point, an exponent, both or neither, or a name of what is no finite number. -/
def isNumeral (text : Text) : Bool :=
  let whole := text.takeWhile isDigit
  let (fraction, rest) := match text.drop whole.length with
    | '.' :: rest => (rest.takeWhile isDigit, rest.dropWhile isDigit)
    | rest => ([], rest)
  let exponent := match rest with
    | c :: '+' :: digits | c :: '-' :: digits | c :: digits =>
      (c == 'e' || c == 'E') && !digits.isEmpty && digits.all isDigit
    | [] => true
  (!(whole ++ fraction).isEmpty && exponent) ||
    ["inf", "infinity", "nan"].contains (String.ofList (text.map Char.toLower))

/-- The value of a field is a pattern, or a number with a plus sign, with which no pattern begins. -/
def isValue (text : Text) : Bool :=
  match text with
  | '+' :: number => isNumeral number
  | text => Pattern.isPattern text

/-- A piece of a filter, with the same text trimmed. The shape of a directive is read off the trimmed text, but
its parts are cut out of the piece at the same places. So a blank in front makes a directive that no target and
no field can meet. -/
structure Piece where
  whole : Text
  trimmed : Text

namespace Piece

def ofText (text : Text) : Piece := ⟨text, Text.trim text⟩

/-- The part of the piece from the place on where the trimmed text has this rest. -/
def after (piece : Piece) (rest : Text) : Text := piece.whole.drop (piece.trimmed.length - rest.length)

/-- What a directive says after its target and scope: everything, unless a verbosity stands there. -/
def ending? (piece : Piece) (target : Text) (scope : Scope) : Text → Option Directive
  | [] => some ⟨target, scope, 5⟩
  | '=' :: rest =>
    let word := piece.after rest
    if word.isEmpty then some ⟨target, scope, 5⟩ else (verbosity? word).map (⟨target, scope, ·⟩)
  | _ => none

/-- The scope of a field between braces. A field with a value is one of a span, and what follows another equals
sign has no meaning. -/
def fieldScope? (field : Text) : Option Scope :=
  match field.splitOn '=' with
  | _ :: value :: _ => if isValue value then some .span else none
  | _ => if field.isEmpty then none else some (.field field)

/-- The scope after an opening bracket: the name of a span, a field, or both. -/
def scoped? (piece : Piece) (target inside : Text) : Option Directive :=
  let span := inside.takeWhile fun c => c != ']' && c != '\x7b'
  match inside.drop span.length with
  | ']' :: rest => piece.ending? target .span rest
  | '\x7b' :: fields => do
    let field := fields.takeWhile (· != '\x7d')
    let scope ← fieldScope? ((piece.after fields).take field.length)
    match fields.drop field.length with
    | '\x7d' :: ']' :: rest => piece.ending? target (if span.isEmpty then scope else .span) rest
    | _ => none
  | _ => none

/-- A verbosity or a target alone, or a target with a scope, a verbosity or both after it. -/
def directive? (piece : Piece) : Option Directive :=
  if !opens piece.trimmed then none
  else
    let word := piece.trimmed.takeWhile fun c => c != '=' && c != '['
    let target := piece.whole.take word.length
    match piece.trimmed.drop word.length with
    | [] =>
      match verbosity? piece.whole with
      | some verbosity => some ⟨[], .all, verbosity⟩
      | none => some ⟨piece.whole, .all, 5⟩
    | '[' :: inside => piece.scoped? target inside
    | rest => piece.ending? target .all rest

end Piece

def applies (directive : Directive) (event : Event) : Bool :=
  directive.target.isPrefixOf event.target.toList &&
    match directive.scope with
    | .all => true
    | .field name => event.hasField (String.ofList name)
    | .span => false

/-- The order of words in a dictionary of code points. -/
def comesAfter : Text → Text → Bool
  | [], _ => false
  | _ :: _, [] => true
  | first :: rest, other :: others =>
    other.toNat < first.toNat || (first == other && comesAfter rest others)

/-- Whether one directive for an event says more than another: a longer target before all, then a field, and of
two fields the one whose name comes later. -/
def outranks (directive other : Directive) : Bool :=
  other.target.length < directive.target.length ||
    (directive.target.length == other.target.length &&
      match directive.scope, other.scope with
      | .field name, .field otherName => comesAfter name otherName
      | .field _, _ => true
      | _, _ => false)

end Directive

abbrev Filter := List Directive

namespace Filter

/-- Commas part the directives. A filter without any lets errors pass and nothing else. -/
def parse? (text : String) : Option Filter :=
  match (text.toList.splitOn ',').filter (!·.isEmpty) with
  | [] => some [⟨[], .all, 1⟩]
  | pieces => pieces.mapM fun piece => (Directive.Piece.ofText piece).directive?

/-- A verbose run logs for debugging whatever filter is given. A filter that cannot be read counts as none. -/
def choose (verbose : Bool) (given : Option String) : Filter :=
  if verbose then [⟨[], .all, 4⟩] else ((given.bind parse?).getD [⟨[], .all, 2⟩])

/-- The directive that decides on an event. -/
def deciding? (filter : Filter) (event : Event) : Option Directive :=
  (filter.filter fun directive => directive.applies event).foldl
    (fun best directive =>
      match best with
      | some other => if other.outranks directive then some other else some directive
      | none => some directive)
    none

def admits (filter : Filter) (event : Event) : Bool :=
  match filter.deciding? event with
  | some directive => event.verbosity ≤ directive.verbosity
  | none => false

def lines (filter : Filter) (events : List Event) : String :=
  String.join ((events.filter filter.admits).map Event.line)

end Filter
end ChefDsl.CommandLine
