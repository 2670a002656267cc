import ChefDsl.Json.Basic
import ChefDsl.Json.Numeral
import ChefDsl.Json.Quoted

/-! Reading a JSON document. The reader of values is a recursion on the number of containers that may still be
opened. The readers of lists and objects take the reader of their members as an argument. -/

namespace ChefDsl.Json

/-- Reads the rest of a word whose first letter chose the value. -/
def readWord (word : Text) (value : Json) (text : Text) : Reading Json text :=
  match word, text with
  | [], text => found value (List.suffix_refl text)
  | _ :: _, [] => faultAt .unfinishedValue []
  | expected :: word, c :: rest =>
    if c = expected then (readWord word value rest).map (·.extend (List.suffix_cons c rest))
    else faultAt .expectedWord (c :: rest)

/-- A reader of the values inside a container. -/
abbrev Reader := (text : Text) → Reading Json text

/-- Reads on after an item of a list; `before` holds the items read so far, the last one first. -/
def readItems {whole : Text} (read : Reader) (before : List Json) (text : Text) (left : text <:+ whole) :
    Reading (List Json) whole :=
  let trimmed := skipSpace_suffix text
  match following : skipSpace text with
  | [] => faultAt .unfinishedList []
  | c :: rest =>
    have remaining : rest <:+ text := (List.suffix_cons c rest).trans (following ▸ trimmed)
    if c = ']' then found before.reverse (remaining.trans left)
    else if c = ',' then
      if (skipSpace rest).head? = some ']' then faultAt .trailingComma (skipSpace rest)
      else
        match read rest with
        | .error fault => .error fault
        | .ok item => readItems read (item.value :: before) item.rest ((item.left.trans remaining).trans left)
    else faultAt .expectedListSeparator (c :: rest)
termination_by text.length
decreasing_by
  have shorter := item.left.length_le
  have spaces := (skipSpace_suffix text).length_le
  simp only [following, List.length_cons] at spaces
  omega

/-- Reads a list without its opening bracket. -/
def readList (read : Reader) (text : Text) : Reading (List Json) text :=
  match following : skipSpace text with
  | [] => faultAt .unfinishedList []
  | c :: rest =>
    if c = ']' then found [] ((List.suffix_cons c rest).trans (following ▸ skipSpace_suffix text))
    else do
      let item ← read text
      readItems read [item.value] item.rest item.left

/-- Reads a key, its colon and its value. -/
def readMember (read : Reader) (text : Text) : Reading (String × Json) text :=
  match text with
  | '"' :: rest => do
    let key ← readString rest
    match following : skipSpace key.rest with
    | [] => faultAt .unfinishedObject []
    | c :: body =>
      if c = ':' then do
        let value ← read body
        have remaining : body <:+ key.rest :=
          (List.suffix_cons c body).trans (following ▸ skipSpace_suffix key.rest)
        return ⟨(key.value, value.value), value.rest,
          ((value.left.trans remaining).trans key.left).trans (List.suffix_cons '"' rest)⟩
      else faultAt .expectedColon (c :: body)
  | text => faultAt .keyNotString text

/-- Reads on after an entry of an object. -/
def readEntries {whole : Text} (read : Reader) (before : Entries Json) (text : Text) (left : text <:+ whole) :
    Reading (Entries Json) whole :=
  match following : skipSpace text with
  | [] => faultAt .unfinishedObject []
  | c :: rest =>
    have remaining : rest <:+ text := (List.suffix_cons c rest).trans (following ▸ skipSpace_suffix text)
    if c = '\x7d' then found before (remaining.trans left)
    else if c = ',' then
      let next := skipSpace rest
      if next = [] then faultAt .unfinishedValue []
      else if next.head? = some '\x7d' then faultAt .trailingComma next
      else
        match readMember read next with
        | .error fault => .error fault
        | .ok member =>
          readEntries read (before.put member.value.1 member.value.2) member.rest
            (((member.left.trans (skipSpace_suffix rest)).trans remaining).trans left)
    else faultAt .expectedObjectSeparator (c :: rest)
termination_by text.length
decreasing_by
  have shorter := member.left.length_le
  have inner : next.length ≤ rest.length := (skipSpace_suffix rest).length_le
  have spaces := (skipSpace_suffix text).length_le
  simp only [following, List.length_cons] at spaces
  omega

/-- Reads an object without its opening brace. -/
def readObject (read : Reader) (text : Text) : Reading (Entries Json) text :=
  match following : skipSpace text with
  | [] => faultAt .unfinishedObject []
  | c :: rest =>
    if c = '\x7d' then found [] ((List.suffix_cons c rest).trans (following ▸ skipSpace_suffix text))
    else do
      let member ← readMember read (c :: rest)
      readEntries read [member.value] member.rest (member.left.trans (following ▸ skipSpace_suffix text))

/-- Reads a value inside which at most `depth` containers may stand open at once. -/
def readValue (depth : Nat) (text : Text) : Reading Json text :=
  match following : skipSpace text with
  | [] => faultAt .unfinishedValue []
  | c :: rest =>
    have remaining : rest <:+ text := (List.suffix_cons c rest).trans (following ▸ skipSpace_suffix text)
    match c with
    | 'n' => (readWord "ull".toList null rest).map (·.extend remaining)
    | 't' => (readWord "rue".toList (bool true) rest).map (·.extend remaining)
    | 'f' => (readWord "alse".toList (bool false) rest).map (·.extend remaining)
    | '"' => (readString rest).map fun step => ⟨string step.value, step.rest, step.left.trans remaining⟩
    | '[' =>
      match depth with
      | 0 => faultAt .tooDeep (c :: rest)
      | depth + 1 =>
        (readList (readValue depth) rest).map fun step => ⟨array step.value, step.rest, step.left.trans remaining⟩
    | '\x7b' =>
      match depth with
      | 0 => faultAt .tooDeep (c :: rest)
      | depth + 1 =>
        (readObject (readValue depth) rest).map fun step =>
          ⟨object step.value, step.rest, step.left.trans remaining⟩
    | c =>
      if c = '-' ∨ isDigit c then
        (readNumber (c :: rest)).map fun step =>
          ⟨number step.value, step.rest, step.left.trans (following ▸ skipSpace_suffix text)⟩
      else faultAt .expectedValue (c :: rest)

/-- Containers that may stand open at once in a document. -/
def depthBound : Nat := 127

def readDocument (text : Text) : Except Fault Json := do
  let value ← readValue depthBound text
  match skipSpace value.rest with
  | [] => return value.value
  | rest => throw ⟨.trailingText, rest, 1⟩

/-- Reads a text that holds one document and nothing else. -/
def parse (text : Text) : Except Error Json :=
  (readDocument text).mapError (·.locate text)

end ChefDsl.Json
