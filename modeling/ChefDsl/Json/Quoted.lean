import ChefDsl.Json.Reading
import ChefDsl.Text.Class

/-! Strings of a JSON text. Escapes by code point name one UTF-16 unit, so a character beyond the first plane
takes two of them, and half of such a pair is a fault. -/

namespace ChefDsl.Json

def hexUnit? (first second third fourth : Char) : Option Nat := do
  let first ← hexValue? first
  let second ← hexValue? second
  let third ← hexValue? third
  let fourth ← hexValue? fourth
  return ((first * 16 + second) * 16 + third) * 16 + fourth

private theorem suffix_four (first second third fourth : Char) (rest : Text) :
    rest <:+ first :: second :: third :: fourth :: rest :=
  ⟨[first, second, third, fourth], rfl⟩

/-- Reads the four digits of a unit. Four bytes are taken before any of them is looked at. -/
def readUnit (text : Text) : Reading Nat text :=
  match text with
  | first :: second :: third :: fourth :: rest =>
    match hexUnit? first second third fourth with
    | some unit => found unit (suffix_four first second third fourth rest)
    | none => .error ⟨.invalidEscape, text, 4⟩
  | text =>
    if text.byteSize < 4 then faultAfter .unfinishedString []
    else .error ⟨.invalidEscape, text, 4⟩

def isLeading (unit : Nat) : Bool := 0xD800 ≤ unit && unit ≤ 0xDBFF

def isTrailing (unit : Nat) : Bool := 0xDC00 ≤ unit && unit ≤ 0xDFFF

/-- The character beyond the first plane that two units stand for. -/
def joinUnits (leading trailing : Nat) : Char :=
  Char.ofNat (0x10000 + (leading - 0xD800) * 0x400 + (trailing - 0xDC00))

private theorem suffix_two (first second : Char) (rest : Text) : rest <:+ first :: second :: rest :=
  ⟨[first, second], rfl⟩

/-- Reads the second half of a pair of units. -/
def readTrailing (leading : Nat) (text : Text) : Reading Char text :=
  match text with
  | '\\' :: 'u' :: rest => do
    let unit ← readUnit rest
    if isTrailing unit.value then
      return Step.extend ⟨joinUnits leading unit.value, unit.rest, unit.left⟩ (suffix_two '\\' 'u' rest)
    else faultAfter .loneSurrogate unit.rest
  | [] | ['\\'] => faultAfter .unfinishedString []
  | '\\' :: rest => faultAt .unfinishedSurrogate rest
  | text => faultAt .unfinishedSurrogate text

def readCodePoint (text : Text) : Reading Char text := do
  let unit ← readUnit text
  if isTrailing unit.value then faultAfter .loneSurrogate unit.rest
  else if isLeading unit.value then
    return (← readTrailing unit.value unit.rest).extend unit.left
  else return ⟨Char.ofNat unit.value, unit.rest, unit.left⟩

/-- The character that a one-letter escape stands for. -/
def shortEscape? : Char → Option Char
  | '"' => some '"'
  | '\\' => some '\\'
  | '/' => some '/'
  | 'b' => some '\x08'
  | 'f' => some '\x0c'
  | 'n' => some '\n'
  | 'r' => some '\r'
  | 't' => some '\t'
  | _ => none

/-- Reads what follows a backslash. -/
def readEscape (text : Text) : Reading Char text :=
  match text with
  | [] => faultAfter .unfinishedString []
  | c :: rest =>
    if c = 'u' then (readCodePoint rest).map (·.extend (List.suffix_cons c rest))
    else
      match shortEscape? c with
      | some escaped => found escaped (List.suffix_cons c rest)
      | none => faultAt .invalidEscape (c :: rest)

/-- Reads the part of a string up to and with its closing quote; `before` holds the characters read so far,
the last one first. -/
def readContent {whole : Text} (before : Text) (text : Text) (left : text <:+ whole) : Reading String whole :=
  match text with
  | [] => faultAfter .unfinishedString []
  | c :: rest =>
    if c = '"' then found (String.ofList before.reverse) ((List.suffix_cons c rest).trans left)
    else if c = '\\' then
      match readEscape rest with
      | .error fault => .error fault
      | .ok escaped =>
        readContent (escaped.value :: before) escaped.rest
          ((escaped.left.trans (List.suffix_cons c rest)).trans left)
    else if c < ' ' then faultAt .controlCharacter (c :: rest)
    else readContent (c :: before) rest ((List.suffix_cons c rest).trans left)
termination_by text.length
decreasing_by
  · have := escaped.left.length_le
    simp only [List.length_cons]
    omega
  · simp

/-- Reads a string without its opening quote. -/
def readString (text : Text) : Reading String text := readContent [] text (List.suffix_refl text)

end ChefDsl.Json
