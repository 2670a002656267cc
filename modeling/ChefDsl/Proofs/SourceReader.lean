import ChefDsl.Decimal.Layout
import ChefDsl.Entries

/-! A reference reader of DSL source. It follows the rules of the language and knows nothing of the layout that the
writer chooses. A step gives what it found at the front of a text and the rest of the text. Blanks and comments may
stand between any two tokens, numbers are read at their exact value and rounded once, and of two entries with one key
the later value counts, in the place of the earlier one. -/

namespace ChefDsl.Proofs.SourceReader

/-- What a literal stands for. The language has one kind of whole number. -/
inductive Datum where
  | nil
  | bool (value : Bool)
  | integer (n : Int)
  | float (x : Binary64)
  | string (text : String)
  | array (items : List Datum)
  | hash (entries : List (String × Datum))

structure Call where
  method : String
  arguments : List Datum

mutual

/-- Passes over blanks and comments. -/
def skipLayout : Text → Text
  | [] => []
  | c :: rest =>
    if c = '#' then skipComment rest
    else if c.isWhitespace then skipLayout rest
    else c :: rest

def skipComment : Text → Text
  | [] => []
  | c :: rest => if c = '\n' then skipLayout rest else skipComment rest

end

section Strings

def prepend (c : Char) (found : Option (Text × Text)) : Option (Text × Text) :=
  found.map fun (text, rest) => (c :: text, rest)

/-- Reads a single-quoted literal after its opening quote. A backslash is an escape only in front of another
backslash or a quote. -/
def readSingle : Text → Option (Text × Text)
  | [] => none
  | '\'' :: rest => some ([], rest)
  | '\\' :: '\\' :: rest => prepend '\\' (readSingle rest)
  | '\\' :: '\'' :: rest => prepend '\'' (readSingle rest)
  | c :: rest => prepend c (readSingle rest)

def escape? : Char → Option Char
  | 'n' => some '\n'
  | 't' => some '\t'
  | 'r' => some '\r'
  | 'e' => some '\x1b'
  | '"' => some '"'
  | '\\' => some '\\'
  | '#' => some '#'
  | _ => none

mutual

/-- Reads a double-quoted literal after its opening quote. An unescaped `#` could open an interpolation, so it is
refused, and so is an unknown escape. -/
def readDouble : Text → Option (Text × Text)
  | [] => none
  | '"' :: rest => some ([], rest)
  | '#' :: _ => none
  | '\\' :: 'u' :: '{' :: digit :: rest => (hexValue? digit).bind fun value => readCodePoint value rest
  | '\\' :: c :: rest => (escape? c).bind fun escaped => prepend escaped (readDouble rest)
  | c :: rest => prepend c (readDouble rest)

/-- Reads on after the first digits of an escape by code point. -/
def readCodePoint (value : Nat) : Text → Option (Text × Text)
  | [] => none
  | c :: rest =>
    if c = '}' then if value.isValidChar then prepend (Char.ofNat value) (readDouble rest) else none
    else (hexValue? c).bind fun digit => readCodePoint (value * 16 + digit) rest

end

def readString : Text → Option (Text × Text)
  | '\'' :: rest => readSingle rest
  | '"' :: rest => readDouble rest
  | _ => none

end Strings

section Numbers

def readDigits (text : Text) : Option (Text × Text) :=
  let digits := text.takeWhile isDigit
  if digits.isEmpty then none else some (digits, text.dropWhile isDigit)

def readFraction : Text → Option (Text × Text)
  | '.' :: rest => readDigits rest
  | text => some ([], text)

def readExponent : Text → Option (Int × Text)
  | 'e' :: '-' :: rest => (readDigits rest).map fun (digits, rest) => (-(Nat.ofDigitChars 10 digits 0), rest)
  | 'e' :: rest => (readDigits rest).map fun (digits, rest) => (Nat.ofDigitChars 10 digits 0, rest)
  | text => some (0, text)

/-- The double nearest to a decimal numeral. -/
def floatOf (negative : Bool) (digits : Text) (exponent : Int) : Binary64 :=
  .ofMagnitude negative (Decimal.mk (Nat.ofDigitChars 10 digits 0) exponent).magnitude

/-- Reads a number without its sign. One with a leading zero would not be decimal. -/
def readNumber (negative : Bool) (text : Text) : Option (Datum × Text) := do
  let (whole, afterWhole) ← readDigits text
  if whole.head? = some '0' ∧ whole ≠ ['0'] then none
  else if afterWhole.head? = some '.' ∨ afterWhole.head? = some 'e' then
    let (fraction, afterFraction) ← readFraction afterWhole
    let (exponent, rest) ← readExponent afterFraction
    return (.float (floatOf negative (whole ++ fraction) (exponent - fraction.length)), rest)
  else
    let n : Int := Nat.ofDigitChars 10 whole 0
    return (.integer (if negative then -n else n), afterWhole)

end Numbers

section Words

def isWordChar (c : Char) : Bool := c.isAlphanum || c == '_' || c == ':'

def readWord (text : Text) : String × Text := (String.ofList (text.takeWhile isWordChar), text.dropWhile isWordChar)

def notANumber : Binary64 := ⟨0x7FF8000000000000⟩

def infinity (negative : Bool) : Binary64 := .ofMagnitude negative Binary64.infinite

def constant? : String → Option Datum
  | "nil" => some .nil
  | "true" => some (.bool true)
  | "false" => some (.bool false)
  | "Float::NAN" => some (.float notANumber)
  | "Float::INFINITY" => some (.float (infinity false))
  | _ => none

end Words

/-- Reads a number or a named value. -/
def readScalar (text : Text) : Option (Datum × Text) :=
  match text with
  | '-' :: rest =>
    if rest.head?.any isDigit then readNumber true rest
    else if (readWord rest).1 = "Float::INFINITY" then some (.float (infinity true), (readWord rest).2)
    else none
  | text =>
    if text.head?.any isDigit then readNumber false text
    else (constant? (readWord text).1).map fun value => (value, (readWord text).2)

section Lists
variable {α : Type} (read : Text → Option (α × Text)) (closing : Char)

/-- Reads members with commas between them, up to the closing character. Each member but the last takes a comma with
it, so a text has fewer of them than characters. -/
def readMembers : Nat → Text → Option (List α × Text)
  | 0, _ => none
  | count + 1, text => do
    let (member, rest) ← read text
    match skipLayout rest with
    | [] => none
    | c :: rest =>
      if c = closing then return ([member], rest)
      else if c = ',' then
        let (members, rest) ← readMembers count rest
        return (member :: members, rest)
      else none

/-- Reads a list after its opening character. -/
def readList (text : Text) : Option (List α × Text) :=
  match skipLayout text with
  | [] => none
  | c :: rest => if c = closing then some ([], rest) else readMembers read closing text.length (c :: rest)

end Lists

/-- Reads a key, an arrow and a value. -/
def readPair (read : Text → Option (Datum × Text)) (text : Text) : Option ((String × Datum) × Text) := do
  let (key, rest) ← readString (skipLayout text)
  match skipLayout rest with
  | '=' :: '>' :: rest =>
    let (value, rest) ← read rest
    return ((String.ofList key, value), rest)
  | _ => none

/-- Reads a literal inside which at most `depth` containers may stand open at once. -/
def readLiteral (depth : Nat) (text : Text) : Option (Datum × Text) :=
  match skipLayout text with
  | '[' :: rest =>
    match depth with
    | 0 => none
    | depth + 1 => (readList (readLiteral depth) ']' rest).map fun (items, rest) => (.array items, rest)
  | '{' :: rest =>
    match depth with
    | 0 => none
    | depth + 1 =>
      (readList (readPair (readLiteral depth)) '}' rest).map fun (pairs, rest) => (.hash (Entries.ofPairs pairs), rest)
  | text =>
    if text.head? = some '\'' ∨ text.head? = some '"' then
      (readString text).map fun (string, rest) => (.string (String.ofList string), rest)
    else readScalar text

def readCall (read : Text → Option (Datum × Text)) (text : Text) : Option (Call × Text) :=
  let (method, rest) := readWord text
  match rest with
  | '(' :: rest => (readList read ')' rest).map fun (arguments, rest) => (⟨method, arguments⟩, rest)
  | _ => none

/-- Reads calls up to the end of the text. -/
def readCalls (read : Text → Option (Datum × Text)) : Nat → Text → Option (List Call)
  | 0, _ => none
  | count + 1, text => do
    match skipLayout text with
    | [] => return []
    | text =>
      let (call, rest) ← readCall read text
      return call :: (← readCalls read count rest)

/-- Reads a whole file. No text opens more containers than it has characters, nor does it hold more calls. -/
def readFile (text : Text) : Option (List Call) :=
  readCalls (readLiteral text.length) (text.length + 1) text

end ChefDsl.Proofs.SourceReader
