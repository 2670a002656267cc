import ChefDsl.Document
import ChefDsl.Proofs.JsonNumerals
import ChefDsl.Proofs.ParsedKeys

/-! Documents with doubles in them, as they may be written: a double as its shortest text, any other number and any
string in a way that its reader takes to the end, and blanks wherever they may stand. Whatever such a text is, the
document read from it is the one that was written, but for its doubles. Each of them is the one that the reader makes
of its text. A reading may still fail, be it that containers stand too deep or that a double is out of range. -/

namespace ChefDsl.Proofs.DocumentSpelling
open Json JsonNumerals

/-- A document whose doubles are told from the other numbers. -/
inductive Tree where
  | null
  | bool (value : Bool)
  | number (value : Number)
  | float (x : Binary64)
  | string (text : String)
  | array (items : List Tree)
  | object (fields : List (String × Tree))

namespace Tree

mutual

/-- The attribute value of a document once its doubles are changed. -/
def value (change : Binary64 → Binary64) : Tree → Value
  | null => .nil
  | bool value => .bool value
  | number value => .ofNumber value
  | float x => .float (change x)
  | string text => .string text
  | array items => .array (values change items)
  | object fields => .hash (Entries.ofPairs (members change fields))

def values (change : Binary64 → Binary64) : List Tree → List Value
  | [] => []
  | item :: rest => value change item :: values change rest

def members (change : Binary64 → Binary64) : List (String × Tree) → List (String × Value)
  | [] => []
  | (key, field) :: rest => (key, value change field) :: members change rest

end

variable (change : Binary64 → Binary64)

private theorem values_eq (items : List Tree) : values change items = items.map (value change) := by
  induction items with
  | nil => rfl
  | cons item rest ih => rw [values, ih, List.map_cons]

theorem members_eq (fields : List (String × Tree)) :
    members change fields = fields.map fun field => (field.1, field.2.value change) := by
  induction fields with
  | nil => rfl
  | cons field rest ih => rw [members, ih, List.map_cons]

end Tree

section Entries
variable {α β : Type} (change : α → β)

private theorem put_map (entries : Entries α) (key : String) (value : α) :
    (entries.put key value).map (fun entry => (entry.1, change entry.2)) =
      Entries.put (entries.map fun entry => (entry.1, change entry.2)) key (change value) := by
  induction entries with
  | nil => rfl
  | cons entry rest ih =>
    obtain ⟨name, old⟩ := entry
    rw [Entries.put, List.map_cons, Entries.put]
    split
    · rfl
    · rw [List.map_cons, ih]

theorem putAll_map (entries pairs : Entries α) :
    Entries.putAll (entries.map fun entry => (entry.1, change entry.2))
        (pairs.map fun entry => (entry.1, change entry.2)) =
      (entries.putAll pairs).map fun entry => (entry.1, change entry.2) := by
  induction pairs generalizing entries with
  | nil => rfl
  | cons pair rest ih =>
    have next := ih (entries.put pair.1 pair.2)
    rw [put_map] at next
    exact next

theorem lookup_map (entries : Entries α) (key : String) :
    (entries.map fun entry => (entry.1, change entry.2)).lookup key = (entries.lookup key).map change := by
  induction entries with
  | nil => rfl
  | cons entry rest ih =>
    rw [List.map_cons, List.lookup_cons, List.lookup_cons]
    split
    · rfl
    · exact ih

end Entries

/-- A run of blanks. -/
def Gap (gap : Text) : Prop := ∀ c ∈ gap, isSpace c = true

/-- Whether a text, closing quote included, is read as the content of a string. -/
def Quotes (content : String) (token : Text) : Prop :=
  ∀ rest, ∃ left, readString (token ++ rest) = .ok ⟨content, rest, left⟩

/-- Whether a character stands for itself in a string. -/
def isPlain (c : Char) : Bool := c != '"' && c != '\\' && !decide (c < ' ')

private theorem readContent_plain {whole text before rest : Text} {left : text <:+ whole} (plain : Text)
    (stands : plain.all isPlain = true) (split : text = plain ++ '"' :: rest) :
    ∃ after, readContent before text left = .ok ⟨String.ofList (before.reverse ++ plain), rest, after⟩ := by
  induction plain generalizing text before with
  | nil =>
    rw [List.nil_append] at split
    subst split
    rw [readContent, if_pos rfl, List.append_nil]
    exact ⟨_, rfl⟩
  | cons c plain ih =>
    rw [List.cons_append] at split
    subst split
    simp only [List.all_cons, isPlain, Bool.and_eq_true, bne_iff_ne, Bool.not_eq_true',
      decide_eq_false_iff_not] at stands
    obtain ⟨⟨⟨quote, escape⟩, control⟩, others⟩ := stands
    have kept : before.reverse ++ c :: plain = (c :: before).reverse ++ plain := by simp
    rw [readContent, if_neg quote, if_neg escape, if_neg control, kept]
    exact ih others rfl

/-- Text without quotes, backslashes and control characters stands for itself. -/
theorem quotes_plain {content : String} (stands : content.toList.all isPlain = true) :
    Quotes content (content.toList ++ ['"']) := by
  intro rest
  have split : content.toList ++ ['"'] ++ rest = content.toList ++ '"' :: rest := List.append_assoc ..
  have given : ∃ left, readString (content.toList ++ ['"'] ++ rest) =
      .ok ⟨String.ofList ([].reverse ++ content.toList), rest, left⟩ := readContent_plain content.toList stands split
  rw [List.reverse_nil, List.nil_append, String.ofList_toList] at given
  exact given

/-- A document as it is written inside another one. -/
structure Item where
  before : Text
  token : Text
  behind : Text
  tree : Tree

def Item.written (item : Item) : Text := item.before ++ item.token ++ item.behind

structure Item.Spaced (item : Item) : Prop where
  before : Gap item.before
  behind : Gap item.behind

/-- A field of an object as it is written. The name is the key behind its opening quote, with the closing one. -/
structure Field where
  before : Text
  key : String
  name : Text
  between : Text
  item : Item

/-- The text of a field from the opening quote of its key on. -/
def Field.token (field : Field) : Text := '"' :: (field.name ++ (field.between ++ ':' :: field.item.written))

def Field.written (field : Field) : Text := field.before ++ field.token

structure Field.Spaced (field : Field) : Prop where
  before : Gap field.before
  between : Gap field.between
  quotes : Quotes field.key field.name
  item : field.item.Spaced

/-- What may stand for a document. -/
inductive Spells : Tree → Text → Prop where
  | null : Spells .null "null".toList
  | true : Spells (.bool true) "true".toList
  | false : Spells (.bool false) "false".toList
  | number {value : Number} {token : Text}
      (read : ∀ rest, Stops rest → ∃ left, readNumber (token ++ rest) = .ok ⟨value, rest, left⟩) :
      Spells (.number value) token
  | float {x : Binary64} (finite : x.isFinite = true) : Spells (.float x) (Value.floatText x)
  | string {content : String} {token : Text} (quotes : Quotes content token) : Spells (.string content) ('"' :: token)
  | array {gap : Text} (blank : Gap gap) {items : List Item} (spaced : ∀ item ∈ items, item.Spaced)
      (spells : ∀ item ∈ items, Spells item.tree item.token) :
      Spells (.array (items.map Item.tree)) ('[' :: (gap ++ [','].intercalate (items.map Item.written) ++ [']']))
  | object {gap : Text} (blank : Gap gap) {fields : List Field} (spaced : ∀ field ∈ fields, field.Spaced)
      (spells : ∀ field ∈ fields, Spells field.item.tree field.item.token) :
      Spells (.object (fields.map fun field => (field.key, field.item.tree)))
        ('\x7b' :: (gap ++ [','].intercalate (fields.map Field.written) ++ ['\x7d']))

section Plain

/-- A field without blanks. -/
def Field.plain (key : String) (tree : Tree) (token : Text) : Field :=
  ⟨[], key, key.toList ++ ['"'], [], ⟨[], token, [], tree⟩⟩

theorem Field.spaced_plain {key : String} (stands : key.toList.all isPlain = true) (tree : Tree) (token : Text) :
    (Field.plain key tree token).Spaced := by
  have none : Gap [] := by simp [Gap]
  exact ⟨none, none, quotes_plain stands, none, none⟩

def objectText (fields : List Field) : Text := '\x7b' :: ([','].intercalate (fields.map Field.written) ++ ['\x7d'])

theorem spells_objectText {fields : List Field} (spaced : ∀ field ∈ fields, field.Spaced)
    (spells : ∀ field ∈ fields, Spells field.item.tree field.item.token) :
    Spells (.object (fields.map fun field => (field.key, field.item.tree))) (objectText fields) :=
  .object (by simp [Gap] : Gap []) spaced spells

end Plain

section Heads
variable {gap rest : Text}

private theorem skipSpace_gap (blank : Gap gap) (rest : Text) : skipSpace (gap ++ rest) = skipSpace rest := by
  induction gap with
  | nil => rfl
  | cons c gap ih =>
    have first : isSpace c = true := blank c (by simp)
    rw [List.cons_append, skipSpace, List.dropWhile_cons_of_pos first]
    exact ih fun other inside => blank other (by simp [inside])

private theorem skipSpace_cons {c : Char} (visible : isSpace c = false) (rest : Text) :
    skipSpace (c :: rest) = c :: rest := by
  rw [skipSpace, List.dropWhile_cons_of_neg (by simp [visible])]

theorem stops_gap (blank : Gap gap) (stops : Stops rest) : Stops (gap ++ rest) := by
  cases gap with
  | nil => exact stops
  | cons c gap =>
    intro first head
    cases head
    simp [endsValue, blank c (by simp)]

private theorem stops_cons {c : Char} (ends : endsValue c = true) (rest : Text) : Stops (c :: rest) := by
  intro first head
  cases head
  exact ends

/-- The first character of a document is no blank and closes no container. -/
def Opens (token : Text) : Prop := ∃ c more, token = c :: more ∧ isSpace c = false ∧ c ≠ ']' ∧ c ≠ '\x7d'

theorem Opens.numeral {c : Char} (numeral : c = '-' ∨ isDigit c = true) (more : Text) : Opens (c :: more) := by
  refine ⟨c, more, rfl, ?_⟩
  rcases numeral with rfl | digit
  · decide
  · refine ⟨?_, ?_, ?_⟩
    · simp only [isSpace, Bool.or_eq_false_iff, beq_eq_false_iff_ne]
      refine ⟨⟨⟨?_, ?_⟩, ?_⟩, ?_⟩ <;> (rintro rfl; exact absurd digit (by decide))
    all_goals rintro rfl; exact absurd digit (by decide)

/-- A number begins with its sign or with a digit. -/
theorem numeral_of_readNumber {text : Text} {step : Step Number text} (given : readNumber text = .ok step) :
    ∃ c more, text = c :: more ∧ (c = '-' ∨ isDigit c = true) := by
  unfold readNumber at given
  split at given
  next more => exact ⟨'-', more, rfl, .inl rfl⟩
  next unsigned =>
    unfold readMagnitude at given
    split at given
    next => exact absurd given ParsedKeys.faultAt_ne_ok
    next c more =>
      by_cases digit : isDigit c = true
      · exact ⟨c, more, rfl, .inr digit⟩
      · rw [if_pos (by simp [digit])] at given
        exact absurd given ParsedKeys.faultAt_ne_ok

private theorem numeral_floatText {x : Binary64} (finite : x.isFinite = true) :
    ∃ c more, Value.floatText x = c :: more ∧ (c = '-' ∨ isDigit c = true) := by
  obtain ⟨c, more, token, first⟩ := head_shortest (of_decide_eq_true finite)
  rw [NumeralShape.floatText_finite finite, token]
  cases x.isNegative with
  | true => exact ⟨'-', _, rfl, .inl rfl⟩
  | false => exact ⟨c, more, rfl, .inr first⟩

private theorem opens_of_spells {tree : Tree} {token : Text} (spells : Spells tree token) : Opens token := by
  cases spells with
  | null | true | false => exact ⟨_, _, rfl, by decide⟩
  | number read =>
    obtain ⟨left, given⟩ := read [] (by simp [Stops])
    obtain ⟨c, more, begins, numeral⟩ := numeral_of_readNumber given
    rw [← List.append_nil token, begins]
    exact Opens.numeral numeral more
  | float finite =>
    obtain ⟨c, more, begins, numeral⟩ := numeral_floatText finite
    rw [begins]
    exact Opens.numeral numeral more
  | string quotes => exact ⟨_, _, rfl, by decide⟩
  | array | object => exact ⟨_, _, rfl, by decide⟩

private theorem skipSpace_opens {token : Text} (opens : Opens token) (blank : Gap gap) (rest : Text) :
    skipSpace (gap ++ token ++ rest) = token ++ rest := by
  obtain ⟨c, more, rfl, visible, _⟩ := opens
  rw [List.append_assoc, skipSpace_gap blank]
  exact skipSpace_cons visible _

end Heads

section Scalars
variable {depth : Nat} {full more rest : Text} {is : Json → Prop}

private theorem finds_readWord (word : Text) {value : Json} (holds : is value) :
    Finds (readWord word value (word ++ rest)) is rest := by
  induction word with
  | nil =>
    intro step given
    cases given
    exact ⟨holds, rfl⟩
  | cons c word ih =>
    rw [List.cons_append, readWord, if_pos rfl]
    exact ih.extend _

private theorem finds_word {c : Char} {word : Text} {value : Json} (start : skipSpace full = c :: (word ++ rest))
    (known : (c, word, value) ∈
      [('n', "ull".toList, .null), ('t', "rue".toList, .bool true), ('f', "alse".toList, .bool false)])
    (holds : is value) : Finds (readValue depth full) is rest := by
  unfold readValue
  split
  next following => cases start.symm.trans following
  next unread following =>
    cases start.symm.trans following
    have finds : Finds (readWord word value (word ++ rest)) is rest := finds_readWord word holds
    simp only [List.mem_cons, Prod.mk.injEq, List.not_mem_nil, or_false] at known
    rcases known with ⟨rfl, rfl, rfl⟩ | ⟨rfl, rfl, rfl⟩ | ⟨rfl, rfl, rfl⟩
    all_goals exact finds.extend _

private theorem finds_number {c : Char} (start : skipSpace full = c :: more) (numeral : c = '-' ∨ isDigit c = true)
    (finds : Finds (readNumber (c :: more)) (fun value => is (.number value)) rest) :
    Finds (readValue depth full) is rest := by
  unfold readValue
  split
  next following => cases start.symm.trans following
  next c unread following =>
    cases start.symm.trans following
    split
    all_goals try (exfalso; revert numeral; decide)
    rw [if_pos numeral]
    exact finds.map fun _ value => ⟨value, rfl⟩

private theorem finds_string (start : skipSpace full = '"' :: more)
    (finds : Finds (readString more) (fun text => is (.string text)) rest) : Finds (readValue depth full) is rest := by
  unfold readValue
  split
  next following => cases start.symm.trans following
  next c unread following =>
    cases start.symm.trans following
    exact finds.map fun _ value => ⟨value, rfl⟩

private theorem finds_array (start : skipSpace full = '[' :: more)
    (finds : ∀ fewer, Finds (readList (readValue fewer) more) (fun items => is (.array items)) rest) :
    Finds (readValue depth full) is rest := by
  unfold readValue
  split
  next following => cases start.symm.trans following
  next c unread following =>
    cases start.symm.trans following
    dsimp only
    cases depth with
    | zero =>
      intro step given
      exact absurd given ParsedKeys.faultAt_ne_ok
    | succ fewer => exact (finds fewer).map fun _ value => ⟨value, rfl⟩

private theorem finds_object (start : skipSpace full = '\x7b' :: more)
    (finds : ∀ fewer, Finds (readObject (readValue fewer) more) (fun entries => is (.object entries)) rest) :
    Finds (readValue depth full) is rest := by
  unfold readValue
  split
  next following => cases start.symm.trans following
  next c unread following =>
    cases start.symm.trans following
    dsimp only
    cases depth with
    | zero =>
      intro step given
      exact absurd given ParsedKeys.faultAt_ne_ok
    | succ fewer => exact (finds fewer).map fun _ value => ⟨value, rfl⟩

end Scalars

/-- A member that a reader finds wherever it stands, up to the blanks behind it. -/
structure ReadsItem (read : Reader) (item : Item) : Prop where
  spaced : item.Spaced
  opens : Opens item.token
  finds : ∀ text rest, skipSpace text = item.token ++ (item.behind ++ rest) → Stops rest →
    Finds (read text) (Value.ofJson · = item.tree.value reread) (item.behind ++ rest)

private theorem ReadsItem.skipSpace_written {read : Reader} {item : Item} (reads : ReadsItem read item) (rest : Text) :
    skipSpace (item.written ++ rest) = item.token ++ (item.behind ++ rest) := by
  rw [Item.written, List.append_assoc]
  exact skipSpace_opens reads.opens reads.spaced.before _

section Containers
variable {whole text rest : Text} {read : Reader}

theorem Opens.append {token : Text} (opens : Opens token) (rest : Text) : Opens (token ++ rest) := by
  obtain ⟨c, more, rfl, kind⟩ := opens
  exact ⟨c, more ++ rest, rfl, kind⟩

/-- What follows a member: the other members, each behind its comma, and what closes the container. -/
def tail (closing : Char) (others : List Text) (rest : Text) : Text :=
  others.flatMap (',' :: ·) ++ closing :: rest

theorem tail_cons (closing : Char) (other : Text) (others : List Text) (rest : Text) :
    tail closing (other :: others) rest = ',' :: (other ++ tail closing others rest) := by
  simp [tail]

private theorem stops_tail {closing : Char} (ends : endsValue closing = true) (others : List Text) (rest : Text) :
    Stops (tail closing others rest) := by
  cases others with
  | nil => exact stops_cons ends rest
  | cons other others => exact stops_cons rfl _

/-- The blanks behind a member end where the next one is separated from it, or the container is closed. -/
theorem skipSpace_tail {gap : Text} (blank : Gap gap) {closing : Char} (visible : isSpace closing = false)
    (others : List Text) (rest : Text) : skipSpace (gap ++ tail closing others rest) = tail closing others rest := by
  rw [skipSpace_gap blank]
  cases others with
  | nil => exact skipSpace_cons visible rest
  | cons other others => exact skipSpace_cons rfl _

private theorem intercalate_tail (closing : Char) (first : Text) (others : List Text) (rest : Text) :
    [','].intercalate (first :: others) ++ closing :: rest = first ++ tail closing others rest := by
  induction others generalizing first with
  | nil => simp [tail]
  | cons other others ih =>
    have split : [','].intercalate (first :: other :: others) =
        first ++ ',' :: [','].intercalate (other :: others) := rfl
    rw [split, List.append_assoc, List.cons_append, ih other, tail_cons]

/-- Once an item is read, the text goes on with the items that follow it. -/
theorem ReadsItem.step {item : Item} (reads : ReadsItem read item) {others : List Text}
    (begins : skipSpace text = item.token ++ (item.behind ++ tail ']' others rest)) {member : Step Json text}
    (given : read text = .ok member) :
    Value.ofJson member.value = item.tree.value reread ∧ skipSpace member.rest = tail ']' others rest := by
  obtain ⟨value, behind⟩ := reads.finds text _ begins (stops_tail rfl others rest) member given
  rw [behind]
  exact ⟨value, skipSpace_tail reads.spaced.behind rfl others rest⟩

private theorem finds_readItems {items : List Item} {before : List Json} {left : text <:+ whole}
    (reads : ∀ item ∈ items, ReadsItem read item) (split : skipSpace text = tail ']' (items.map Item.written) rest) :
    Finds (readItems read before text left)
      (fun found => found.map Value.ofJson =
        before.reverse.map Value.ofJson ++ items.map (·.tree.value reread)) rest := by
  intro step given
  fun_induction readItems read before text left generalizing items with
  | case2 before text _ _ _ following =>
    cases items with
    | nil =>
      cases split.symm.trans following
      cases given
      exact ⟨(List.append_nil _).symm, rfl⟩
    | cons item items => cases split.symm.trans following
  | case4 => cases given
  | case5 before text _ _ unread _ member here following _ _ ih =>
    cases items with
    | nil => cases split.symm.trans following
    | cons item items =>
      have first := reads item (by simp)
      rw [List.map_cons, tail_cons] at split
      cases split.symm.trans following
      obtain ⟨value, next⟩ := first.step (first.skipSpace_written _) here
      obtain ⟨others, left⟩ := ih (fun other inside => reads other (by simp [inside])) next given
      refine ⟨?_, left⟩
      dsimp only at others ⊢
      rw [others, List.reverse_cons, List.map_append, List.map_singleton, value, List.append_assoc, List.map_cons]
      rfl
  | _ => exact absurd given ParsedKeys.faultAt_ne_ok

private theorem finds_closedList {more : Text} (closed : skipSpace text = ']' :: more) :
    Finds (readList read text) (· = []) more := by
  intro step given
  unfold readList at given
  split at given
  next following => cases closed.symm.trans following
  next following =>
    cases closed.symm.trans following
    cases given
    exact ⟨rfl, rfl⟩

private theorem readList_eq_ok {token : Text} (opens : Opens token) (begins : skipSpace text = token)
    {step : Step (List Json) text} (given : readList read text = .ok step) :
    ∃ member, read text = .ok member ∧ readItems read [member.value] member.rest member.left = .ok step := by
  obtain ⟨c, more, rfl, _, unclosed, _⟩ := opens
  unfold readList at given
  split at given
  next following => cases begins.symm.trans following
  next following =>
    cases begins.symm.trans following
    rw [if_neg unclosed] at given
    exact Results.bind_eq_ok.mp given

private theorem finds_readList {gap : Text} (blank : Gap gap) {items : List Item}
    (reads : ∀ item ∈ items, ReadsItem read item) :
    Finds (readList read (gap ++ ([','].intercalate (items.map Item.written) ++ ']' :: rest)))
      (fun found => found.map Value.ofJson = items.map (·.tree.value reread)) rest := by
  cases items with
  | nil =>
    have closed : skipSpace (gap ++ ']' :: rest) = ']' :: rest := by
      rw [skipSpace_gap blank]
      exact skipSpace_cons rfl rest
    intro step given
    obtain ⟨value, left⟩ := finds_closedList closed step given
    exact ⟨congrArg (List.map Value.ofJson) value, left⟩
  | cons item items =>
    have first := reads item (by simp)
    rw [List.map_cons, intercalate_tail]
    have begins := (skipSpace_gap blank _).trans (first.skipSpace_written (tail ']' (items.map Item.written) rest))
    intro step given
    obtain ⟨member, here, given⟩ := readList_eq_ok (first.opens.append _) begins given
    obtain ⟨value, next⟩ := first.step begins here
    obtain ⟨others, left⟩ := finds_readItems (fun other inside => reads other (by simp [inside])) next step given
    refine ⟨?_, left⟩
    dsimp only at others ⊢
    rw [others, List.reverse_singleton, List.map_singleton, value, List.map_cons, List.singleton_append]

/-- A field that a reader of members reads, with its key and its value. -/
structure ReadsField (read : Reader) (field : Field) : Prop where
  spaced : field.Spaced
  item : ReadsItem read field.item

private theorem ReadsField.skipSpace_written {field : Field} (reads : ReadsField read field) (rest : Text) :
    skipSpace (field.written ++ rest) = field.token ++ rest := by
  rw [Field.written, List.append_assoc, skipSpace_gap reads.spaced.before]
  exact skipSpace_cons rfl _

/-- Once a field is read, the text goes on with the fields that follow it. -/
theorem ReadsField.step {field : Field} (reads : ReadsField read field) {others : List Text}
    (begins : text = field.token ++ tail '\x7d' others rest) {member : Step (String × Json) text}
    (given : readMember read text = .ok member) :
    member.value.1 = field.key ∧ Value.ofJson member.value.2 = field.item.tree.value reread ∧
      skipSpace member.rest = tail '\x7d' others rest := by
  have stops := stops_tail (by decide : endsValue '\x7d' = true) others rest
  have behind := skipSpace_tail reads.item.spaced.behind (by decide : isSpace '\x7d' = false) others rest
  generalize tail '\x7d' others rest = following at *
  have split : text = '"' :: (field.name ++ (field.between ++ ':' :: (field.item.written ++ following))) := by
    simp [begins, Field.token]
  obtain ⟨_, quoted⟩ := reads.spaced.quotes (field.between ++ ':' :: (field.item.written ++ following))
  have colon := (skipSpace_gap reads.spaced.between _).trans
    (skipSpace_cons (by decide : isSpace ':' = false) (field.item.written ++ following))
  clear begins
  unfold readMember at given
  split at given
  next unread =>
    cases split
    rw [quoted, Results.ok_bind] at given
    split at given
    next empty => cases colon.symm.trans empty
    next begins =>
      cases colon.symm.trans begins
      obtain ⟨value, here, given⟩ := Results.bind_eq_ok.mp given
      obtain ⟨same, left⟩ := reads.item.finds _ _ (reads.item.skipSpace_written following) stops value here
      cases given
      refine ⟨rfl, same, ?_⟩
      dsimp only
      rw [left]
      exact behind
  next => exact absurd given ParsedKeys.faultAt_ne_ok

private theorem ofEntries_put (entries : Entries Json) (key : String) (value : Json) :
    Value.ofEntries (entries.put key value) = Entries.put (Value.ofEntries entries) key (Value.ofJson value) := by
  rw [Nesting.ofEntries_eq, Nesting.ofEntries_eq]
  exact put_map Value.ofJson entries key value

def Field.entry (field : Field) : String × Value := (field.key, field.item.tree.value reread)

private theorem finds_readEntries {fields : List Field} {before : Entries Json} {left : text <:+ whole}
    (reads : ∀ field ∈ fields, ReadsField read field)
    (split : skipSpace text = tail '\x7d' (fields.map Field.written) rest) :
    Finds (readEntries read before text left)
      (fun found => Value.ofEntries found = Entries.putAll (Value.ofEntries before) (fields.map Field.entry)) rest := by
  intro step given
  fun_induction readEntries read before text left generalizing fields with
  | case2 before text _ _ following =>
    cases fields with
    | nil =>
      cases split.symm.trans following
      cases given
      exact ⟨rfl, rfl⟩
    | cons field fields => cases split.symm.trans following
  | case5 => cases given
  | case6 =>
    rename_i unread _ _ _ member here following _ _ ih
    cases fields with
    | nil => cases split.symm.trans following
    | cons field fields =>
      have first := reads field (by simp)
      rw [List.map_cons, tail_cons] at split
      cases split.symm.trans following
      obtain ⟨key, value, next⟩ := first.step (first.skipSpace_written _) here
      obtain ⟨others, left⟩ := ih (fun other inside => reads other (by simp [inside])) next given
      refine ⟨?_, left⟩
      dsimp only at others ⊢
      rw [others, ofEntries_put, key, value]
      rfl
  | _ => exact absurd given ParsedKeys.faultAt_ne_ok

private theorem finds_closedObject {more : Text} (closed : skipSpace text = '\x7d' :: more) :
    Finds (readObject read text) (· = []) more := by
  intro step given
  unfold readObject at given
  split at given
  next following => cases closed.symm.trans following
  next following =>
    cases closed.symm.trans following
    cases given
    exact ⟨rfl, rfl⟩

private theorem readObject_eq_ok {token : Text} (opens : Opens token) (begins : skipSpace text = token)
    {step : Step (Entries Json) text} (given : readObject read text = .ok step) :
    ∃ member left, readMember read token = .ok member ∧
      readEntries read [member.value] member.rest left = .ok step := by
  obtain ⟨c, more, rfl, _, _, unclosed⟩ := opens
  unfold readObject at given
  split at given
  next following => cases begins.symm.trans following
  next following =>
    cases begins.symm.trans following
    rw [if_neg unclosed] at given
    obtain ⟨member, here, given⟩ := Results.bind_eq_ok.mp given
    exact ⟨member, _, here, given⟩

private theorem finds_readObject {gap : Text} (blank : Gap gap) {fields : List Field}
    (reads : ∀ field ∈ fields, ReadsField read field) :
    Finds (readObject read (gap ++ ([','].intercalate (fields.map Field.written) ++ '\x7d' :: rest)))
      (fun found => Value.ofEntries found = Entries.ofPairs (fields.map Field.entry)) rest := by
  cases fields with
  | nil =>
    have closed : skipSpace (gap ++ '\x7d' :: rest) = '\x7d' :: rest := by
      rw [skipSpace_gap blank]
      exact skipSpace_cons rfl rest
    intro step given
    obtain ⟨value, left⟩ := finds_closedObject closed step given
    exact ⟨congrArg Value.ofEntries value, left⟩
  | cons field fields =>
    have first := reads field (by simp)
    rw [List.map_cons, intercalate_tail]
    have begins := (skipSpace_gap blank _).trans (first.skipSpace_written (tail '\x7d' (fields.map Field.written) rest))
    have opens : Opens field.token := ⟨'"', _, rfl, by decide⟩
    intro step given
    obtain ⟨member, _, here, given⟩ := readObject_eq_ok (opens.append _) begins given
    obtain ⟨key, value, next⟩ := first.step rfl here
    obtain ⟨others, left⟩ := finds_readEntries (fun other inside => reads other (by simp [inside])) next step given
    refine ⟨?_, left⟩
    dsimp only at others ⊢
    rw [others, Value.ofEntries, key, value]
    rfl

end Containers

/-- What is read from a text that spells a document is that document, with each double as the reader makes it. -/
theorem finds_spelled {tree : Tree} {token : Text} (spells : Spells tree token) {depth : Nat} {text rest : Text}
    (begins : skipSpace text = token ++ rest) (stops : Stops rest) :
    Finds (readValue depth text) (Value.ofJson · = tree.value reread) rest := by
  induction spells generalizing depth text rest with
  | null =>
    have start : skipSpace text = 'n' :: ("ull".toList ++ rest) := begins
    exact finds_word start (.head _) rfl
  | true =>
    have start : skipSpace text = 't' :: ("rue".toList ++ rest) := begins
    exact finds_word start (.tail _ (.head _)) rfl
  | false =>
    have start : skipSpace text = 'f' :: ("alse".toList ++ rest) := begins
    exact finds_word start (.tail _ (.tail _ (.head _))) rfl
  | number read =>
    obtain ⟨left, given⟩ := read rest stops
    obtain ⟨c, more, starts, numeral⟩ := numeral_of_readNumber given
    rw [starts] at begins
    apply finds_number begins numeral
    rw [← starts]
    intro step same
    cases given.symm.trans same
    exact ⟨rfl, rfl⟩
  | float finite =>
    obtain ⟨c, more, starts, numeral⟩ := numeral_floatText finite
    have finds := finds_floatText finite stops
    rw [starts] at begins finds
    exact finds_number begins numeral finds
  | @string content token quotes =>
    apply finds_string begins
    obtain ⟨left, given⟩ := quotes rest
    intro step same
    cases given.symm.trans same
    exact ⟨rfl, rfl⟩
  | @array gap blank items spaced spells ih =>
    have start : skipSpace text = '[' :: (gap ++ ([','].intercalate (items.map Item.written) ++ ']' :: rest)) := by
      simpa using begins
    apply finds_array start
    intro fewer
    have reads : ∀ item ∈ items, ReadsItem (readValue fewer) item := by
      intro item member
      refine ⟨spaced item member, opens_of_spells (spells item member), ?_⟩
      intro text rest split stops
      exact ih item member split (stops_gap (spaced item member).behind stops)
    intro step given
    obtain ⟨values, left⟩ := finds_readList blank reads step given
    refine ⟨?_, left⟩
    dsimp only at values ⊢
    rw [Value.ofJson, Nesting.ofItems_eq, values, Tree.value, Tree.values_eq, List.map_map]
    rfl
  | @object gap blank fields spaced spells ih =>
    have start : skipSpace text =
        '\x7b' :: (gap ++ ([','].intercalate (fields.map Field.written) ++ '\x7d' :: rest)) := by
      simpa using begins
    apply finds_object start
    intro fewer
    have reads : ∀ field ∈ fields, ReadsField (readValue fewer) field := by
      intro field member
      have around := (spaced field member).item
      refine ⟨spaced field member, around, opens_of_spells (spells field member), ?_⟩
      intro text rest split stops
      exact ih field member split (stops_gap around.behind stops)
    intro step given
    obtain ⟨entries, left⟩ := finds_readObject blank reads step given
    refine ⟨?_, left⟩
    dsimp only at entries ⊢
    rw [Value.ofJson, entries, Tree.value, Tree.members_eq, List.map_map]
    rfl

/-- The document that a text gives, where the text spells a tree between blanks. -/
theorem ofJson_parsed {tree : Tree} {before token behind : Text} (spells : Spells tree token) (first : Gap before)
    (last : Gap behind) {document : Json} (parsed : parse (before ++ token ++ behind) = .ok document) :
    Value.ofJson document = tree.value reread := by
  obtain ⟨value, read, given⟩ := Results.bind_eq_ok.mp (ParsedKeys.mapError_eq_ok parsed)
  have stops : Stops behind := by
    rw [← List.append_nil behind]
    exact stops_gap last (by simp [Stops])
  have begins := skipSpace_opens (opens_of_spells spells) first behind
  obtain ⟨same, left⟩ := finds_spelled spells begins stops value read
  split at given
  next =>
    cases given
    exact same
  next => cases given

end ChefDsl.Proofs.DocumentSpelling
