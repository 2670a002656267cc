import ChefDsl.Text.Lines

/-! Text without what acts on a terminal. Control characters go, apart from those that are blanks, and so do
control sequences: from an escape character to the character that ends the sequence, or to the end of the text.
A text without control characters stays as it is. -/

namespace ChefDsl.Text

/-- Where in a control sequence a place of the text lies. A device string begins with a head of parameters and
intermediate characters, in this order. -/
inductive Sequence where
  | outside
  | escape
  | intermediate
  | control
  | command
  | deviceStart
  | deviceParameters
  | deviceIntermediate
  | string
deriving DecidableEq

namespace Sequence

def isBlankControl (c : Char) : Bool := c = '\t' || c = '\n' || c = '\x0c' || c = '\r'

/-- Whether a character can be seen outside all sequences. -/
def isPlain (c : Char) : Bool := (' ' ≤ c && c != '\x7f') || isBlankControl c

/-- Whether a character is kept. A blank within a sequence is no part of it, except in strings. -/
def keeps : Sequence → Char → Bool
  | outside, c => isPlain c
  | escape, c | intermediate, c | control, c => isBlankControl c
  | _, _ => false

/-- The byte that ends a string counts also where it is part of a longer character. -/
def endsString (c : Char) : Bool := (String.utf8EncodeChar c).contains 0x9C

/-- After a visible character of a sequence. -/
def afterVisible (sequence : Sequence) (c : Char) : Sequence :=
  match sequence with
  | outside => outside
  | escape =>
    if c ≤ '/' then intermediate
    else if c = '[' then control
    else if c = ']' then command
    else if c = 'P' then deviceStart
    else if c = 'X' || c = '^' || c = '_' then string
    else if c ≤ '~' then outside
    else escape
  | intermediate => if '0' ≤ c && c ≤ '~' then outside else intermediate
  | control => if '@' ≤ c && c ≤ '~' then outside else control
  | command => command
  | deviceStart =>
    if c ≤ '/' then deviceIntermediate
    else if c ≤ '?' then deviceParameters
    else if c ≤ '~' then string
    else deviceStart
  | deviceParameters =>
    if c ≤ '/' then deviceIntermediate
    else if c ≤ ';' then deviceParameters
    else if c ≤ '~' then string
    else deviceParameters
  | deviceIntermediate => if '0' ≤ c && c ≤ '~' then string else deviceIntermediate
  | string => if endsString c then outside else string

/-- An escape character begins a sequence anywhere. Cancel and substitute end any sequence, and the bell ends a
command. -/
def next (sequence : Sequence) (c : Char) : Sequence :=
  if c = '\x1b' then escape
  else if c = '\x18' || c = '\x1a' then outside
  else if sequence = command && c = '\x07' then outside
  else if c < ' ' || c = '\x7f' then sequence
  else sequence.afterVisible c

end Sequence

/-- What is visible from a place on. A blank that is kept within a sequence interrupts it: the characters after
it can be seen, until a character that cannot takes the sequence up again. -/
def visibleFrom (sequence : Sequence) (interrupted : Bool) : Text → Text
  | [] => []
  | c :: rest =>
    if (if interrupted then Sequence.isPlain c else sequence.keeps c) then
      c :: visibleFrom (if c ≤ '~' then sequence else .outside) true rest
    else visibleFrom (sequence.next c) false rest

def visible (text : Text) : Text := visibleFrom .outside false text

end ChefDsl.Text
