import ChefDsl.Proofs.ListReading
import ChefDsl.Proofs.UniqueKeys
import ChefDsl.Proofs.ValueLayout

/-! Values read back from their literals, at every depth and before everything that may follow a literal. The
language has one kind of whole number and one NaN, so a value reads back up to these two distinctions. -/

namespace ChefDsl.Proofs.ValueReading
open SourceReader TextLines NumeralShape NumberReading ListReading ValueLayout UniqueKeys Nesting

mutual

/-- What a value is to the language. -/
def datum : Value → Datum
  | .nil => .nil
  | .bool value => .bool value
  | .integer n => .integer n.toInt
  | .unsigned n => .integer n.toNat
  | .float x => .float (if x.isNaN then notANumber else x)
  | .string text => .string text
  | .array items => .array (dataOf items)
  | .hash entries => .hash (entriesOf entries)

def dataOf : List Value → List Datum
  | [] => []
  | item :: rest => datum item :: dataOf rest

def entriesOf : List (String × Value) → List (String × Datum)
  | [] => []
  | (key, value) :: rest => (key, datum value) :: entriesOf rest

end

theorem dataOf_eq (items : List Value) : dataOf items = items.map datum := by
  induction items with
  | nil => rfl
  | cons item rest ih => rw [dataOf, ih, List.map_cons]

theorem entriesOf_eq (entries : List (String × Value)) :
    entriesOf entries = entries.map fun entry => (entry.1, datum entry.2) := by
  induction entries with
  | nil => rfl
  | cons entry rest ih => rw [entriesOf, ih, List.map_cons]

section Scalars
variable {c : Char} {rest : Text}

private theorem readScalar_minus (digit : isDigit c = true) (more : Text) :
    readScalar ('-' :: c :: more) = readNumber true (c :: more) := by
  simp [readScalar, digit]

private theorem readScalar_unsigned (unsigned : c ≠ '-') (more : Text) :
    readScalar (c :: more) =
      if isDigit c then readNumber false (c :: more)
      else (constant? (readWord (c :: more)).1).map fun value => (value, (readWord (c :: more)).2) := by
  unfold readScalar
  split
  next same => exact absurd (List.cons_eq_cons.mp same).1 unsigned
  next => rfl

private theorem ne_minus_of_isDigit (digit : isDigit c = true) : c ≠ '-' := by
  rintro rfl
  exact absurd digit (by decide)

theorem readWord_append {word : Text} (letters : ∀ c ∈ word, isWordChar c = true)
    (stop : ∀ c ∈ rest.head?, isWordChar c = false) : readWord (word ++ rest) = (String.ofList word, rest) := by
  rw [readWord, takeWhile_boundary letters stop, dropWhile_boundary letters stop]

private theorem readScalar_constant {name : String} {value : Datum} (letters : name.toList.all isWordChar = true)
    (first : name.toList.head?.any (! isDigit ·) = true) (named : constant? name = some value) (ends : Ends rest) :
    readScalar (name.toList ++ rest) = some (value, rest) := by
  have stop : ∀ c ∈ rest.head?, isWordChar c = false := fun c head => isWordChar_of_endsLiteral (ends c head)
  have word := readWord_append (List.all_eq_true.mp letters) stop
  rw [String.ofList_toList] at word
  cases split : name.toList with
  | nil =>
    rw [split] at first
    contradiction
  | cons c more =>
    rw [split] at letters first word
    have letter : isDigit c = false := by simpa using first
    have unsigned : c ≠ '-' := by
      rintro rfl
      exact absurd (List.all_eq_true.mp letters '-' (by simp)) (by decide)
    rw [List.cons_append] at word ⊢
    rw [readScalar_unsigned unsigned, letter, word]
    simp only [Bool.false_eq_true, ↓reduceIte, named, Option.map_some]

private theorem readScalar_negativeInfinity (ends : Ends rest) :
    readScalar ('-' :: ("Float::INFINITY".toList ++ rest)) = some (.float (infinity true), rest) := by
  have stop : ∀ c ∈ rest.head?, isWordChar c = false := fun c head => isWordChar_of_endsLiteral (ends c head)
  have word := readWord_append (List.all_eq_true.mp (by decide : "Float::INFINITY".toList.all isWordChar = true)) stop
  have letter : ("Float::INFINITY".toList ++ rest).head?.any isDigit = false := rfl
  rw [String.ofList_toList] at word
  simp only [readScalar, letter, word, Bool.false_eq_true, ↓reduceIte]

private theorem readScalar_natural (n : Nat) (ends : Ends rest) :
    readScalar (Nat.toDigits 10 n ++ rest) = some (.integer n, rest) := by
  have numeral := numeral_toDigits n
  have reads := readNumber_integer false numeral ends
  obtain ⟨c, more, split⟩ := List.exists_cons_of_ne_nil numeral.nonempty
  have digit : isDigit c = true := numeral.digit c (by simp [split])
  have value : Nat.ofDigitChars 10 (c :: more) 0 = n := by rw [← split, Nat.ofDigitChars_ten_toDigits]
  rw [split] at reads ⊢
  rw [List.cons_append, readScalar_unsigned (ne_minus_of_isDigit digit), if_pos digit, ← List.cons_append, reads]
  simp [value]

private theorem readScalar_integerText (n : Int) (ends : Ends rest) :
    readScalar (Decimal.integerText n ++ rest) = some (.integer n, rest) := by
  unfold Decimal.integerText
  split
  next negative =>
    have numeral := numeral_toDigits n.natAbs
    have reads := readNumber_integer true numeral ends
    obtain ⟨c, more, split⟩ := List.exists_cons_of_ne_nil numeral.nonempty
    have digit : isDigit c = true := numeral.digit c (by simp [split])
    have value : Nat.ofDigitChars 10 (c :: more) 0 = n.natAbs := by rw [← split, Nat.ofDigitChars_ten_toDigits]
    have sign : -(n.natAbs : Int) = n := by omega
    rw [split] at reads ⊢
    rw [List.cons_append, List.cons_append, readScalar_minus digit, ← List.cons_append, reads, value, sign, if_pos rfl]
  next natural =>
    have same : (n.natAbs : Int) = n := by omega
    rw [readScalar_natural n.natAbs ends, same]

private theorem finite_of_not {x : Binary64} (defined : x.isNaN = false) (bounded : x.isInfinite = false) :
    x.magnitude < Binary64.infinite := by
  simp only [Binary64.isNaN, decide_eq_false_iff_not, Binary64.isInfinite, beq_eq_false_iff_ne] at defined bounded
  omega

private theorem isDigit_of_readNumber {negative : Bool} {more : Text} {result : Datum × Text}
    (reads : readNumber negative (c :: more) = some result) : isDigit c = true := by
  cases digit : isDigit c with
  | true => rfl
  | false => simp [readNumber, readDigits, digit] at reads

/-- The text of a double reads back as the double, or as the one NaN. -/
theorem readScalar_floatText (x : Binary64) (ends : Ends rest) :
    readScalar (Value.floatText x ++ rest) = some (.float (if x.isNaN then notANumber else x), rest) := by
  have value := Binary64.ofMagnitude_magnitude x
  unfold Value.floatText
  cases undefined : x.isNaN with
  | true => exact readScalar_constant rfl rfl rfl ends
  | false =>
    cases infinite : x.isInfinite with
    | true =>
      have magnitude : x.magnitude = Binary64.infinite := by simpa [Binary64.isInfinite] using infinite
      rw [magnitude] at value
      cases negative : x.isNegative with
      | true =>
        rw [negative] at value
        rw [← value]
        exact readScalar_negativeInfinity ends
      | false =>
        rw [negative] at value
        rw [← value]
        exact readScalar_constant rfl rfl rfl ends
    | false =>
      have reads := readNumber_shortest x.isNegative (finite_of_not undefined infinite) ends
      obtain ⟨c, more, split⟩ := List.exists_cons_of_ne_nil (text_ne_nil Value.floatLayout (.shortest .up x.magnitude))
      have written : Value.floatLayout.shortest x.magnitude = c :: more := split
      rw [value, written, List.cons_append] at reads
      have digit := isDigit_of_readNumber reads
      rw [written]
      cases negative : x.isNegative with
      | true =>
        rw [negative] at reads
        exact (readScalar_minus digit _).trans reads
      | false =>
        rw [negative] at reads
        exact ((readScalar_unsigned (ne_minus_of_isDigit digit) _).trans (if_pos digit)).trans reads

end Scalars

section Literals
variable {gap text rest : Text} {depth : Nat}

private theorem readLiteral_string (blank : Blank gap) (text : Text) :
    readLiteral depth (gap ++ (Literal.quote text ++ rest)) = some (.string (String.ofList text), rest) := by
  have reads := QuoteReading.readString_quote text rest
  obtain ⟨body, single | double⟩ := QuoteReading.quote_eq_cons text
  · rw [single, List.cons_append] at reads ⊢
    rw [readLiteral, skipLayout_blank blank, skipLayout_opens rfl]
    simp [reads]
  · rw [double, List.cons_append] at reads ⊢
    rw [readLiteral, skipLayout_blank blank, skipLayout_opens rfl]
    simp [reads]

private theorem quote_opens (text : Text) : ∃ c more, Literal.quote text = c :: more ∧ opensLiteral c = true := by
  obtain ⟨body, single | double⟩ := QuoteReading.quote_eq_cons text
  · exact ⟨_, body, single, by decide⟩
  · exact ⟨_, body, double, by decide⟩

private theorem readLiteral_scalar {c : Char} (blank : Blank gap) (start : isWordChar c = true ∨ c = '-')
    (more : Text) :
    readLiteral depth (gap ++ c :: more) = readScalar (c :: more) := by
  have opens : opensLiteral c = true := by
    rcases start with letter | rfl
    · simp [opensLiteral, letter]
    · decide
  have other (bracket : Char) (never : isWordChar bracket = false) (sign : bracket ≠ '-') : c ≠ bracket := by
    rintro rfl
    rcases start with letter | same
    · rw [letter] at never
      contradiction
    · exact sign same
  have single := other '\'' rfl (by decide)
  have double := other '"' rfl (by decide)
  rw [readLiteral, skipLayout_blank blank, skipLayout_opens opens]
  split
  next same => exact absurd (List.cons_eq_cons.mp same).1 (other _ rfl (by decide))
  next same => exact absurd (List.cons_eq_cons.mp same).1 (other _ rfl (by decide))
  next => simp [single, double]

theorem blank_newline (depth : Nat) : Blank (newline depth) := by
  intro c member
  simp only [newline, Level.indent, List.mem_cons, List.mem_replicate] at member
  rcases member with rfl | ⟨_, rfl⟩ <;> decide

private theorem readList_enclosed {α : Type} {read : Text → Option (α × Text)} (opening : Char) {closing : Char}
    (closes : Closes closing) (level : Nat) {parts : List (Text × α)} (each : ∀ part ∈ parts, Reads read part.1 part.2) :
    ∃ body, enclosed opening closing level (parts.map Prod.fst) = opening :: body ∧
      ∀ rest, readList read closing (body ++ rest) = some (parts.map Prod.snd, rest) := by
  by_cases empty : parts = []
  · subst empty
    exact ⟨[closing], rfl, fun rest => readList_empty (show Blank [] by simp [Blank]) closes⟩
  · refine ⟨newline (level + 1) ++ ((',' :: newline (level + 1)).intercalate (parts.map Prod.fst) ++
      (newline level ++ [closing])), ?_, ?_⟩
    · simp [enclosed, empty]
    · intro rest
      have ends : Ends (newline level ++ closing :: rest) := by simp [Ends, newline, endsLiteral]
      have reads := readList_members empty each closes (blank_newline (level + 1)) (blank_newline level) ends
      simpa using reads

private theorem length_lt_enclosed (opening closing : Char) (level : Nat) {member : Text} {members : List Text}
    (inside : member ∈ members) : member.length < (enclosed opening closing level members).length := by
  have within := length_le_intercalate_of_mem (',' :: newline (level + 1)) inside
  have nonempty : members ≠ [] := List.ne_nil_of_mem inside
  simp only [enclosed, List.isEmpty_iff, nonempty, ↓reduceIte, List.length_append, List.length_singleton]
  omega

private theorem enclosed_ne_nil (opening closing : Char) (level : Nat) (members : List Text) :
    enclosed opening closing level members ≠ [] := by
  unfold enclosed
  split <;> simp

private theorem closes_bracket : Closes ']' := ⟨by decide, by decide, by decide⟩

private theorem closes_brace : Closes '\x7d' := ⟨by decide, by decide, by decide⟩

private theorem readLiteral_array (level : Nat) {parts : List (Text × Datum)}
    (each : ∀ part ∈ parts, Reads (readLiteral depth) part.1 part.2) :
    Reads (readLiteral (depth + 1)) (enclosed '[' ']' level (parts.map Prod.fst)) (.array (parts.map Prod.snd)) := by
  obtain ⟨body, written, reads⟩ := readList_enclosed '[' closes_bracket level each
  rw [written]
  refine ⟨⟨'[', body, rfl, by decide⟩, ?_⟩
  intro gap rest blank _
  rw [List.cons_append, readLiteral, skipLayout_blank blank, skipLayout_opens rfl]
  simp [reads]

private theorem readLiteral_hash (level : Nat) {parts : List (Text × String × Datum)}
    (each : ∀ part ∈ parts, Reads (readPair (readLiteral depth)) part.1 part.2)
    (unique : Entries.Unique (parts.map Prod.snd)) :
    Reads (readLiteral (depth + 1)) (enclosed '\x7b' '\x7d' level (parts.map Prod.fst))
      (.hash (parts.map Prod.snd)) := by
  obtain ⟨body, written, reads⟩ := readList_enclosed '\x7b' closes_brace level each
  rw [written]
  refine ⟨⟨'\x7b', body, rfl, by decide⟩, ?_⟩
  intro gap rest blank _
  rw [List.cons_append, readLiteral, skipLayout_blank blank, skipLayout_opens rfl]
  simp [reads, ofPairs_unique unique]

private theorem readPair_entry {read : Text → Option (Datum × Text)} {value : Datum} (reads : Reads read text value)
    (key : String) : Reads (readPair read) (Literal.quote key.toList ++ Value.arrow ++ text) (key, value) := by
  obtain ⟨c, body, written, opens⟩ := quote_opens key.toList
  refine ⟨⟨c, body ++ Value.arrow ++ text, by simp [written], opens⟩, ?_⟩
  intro gap rest blank ends
  have split : Literal.quote key.toList ++ Value.arrow ++ text ++ rest =
      Literal.quote key.toList ++ (' ' :: '=' :: '>' :: ([' '] ++ (text ++ rest))) := by
    simp [Value.arrow]
  have start (more : Text) : skipLayout (Literal.quote key.toList ++ more) = Literal.quote key.toList ++ more := by
    rw [written, List.cons_append, skipLayout_opens opens]
  have arrow (more : Text) : skipLayout (' ' :: '=' :: '>' :: more) = '=' :: '>' :: more := by
    simp [skipLayout]
  have found := reads.reads [' '] rest (by simp [Blank]) ends
  rw [split, readPair, skipLayout_blank blank, start, QuoteReading.readString_quote]
  simp only [Option.bind_eq_bind, Option.bind_some, arrow, found, Option.pure_def, String.ofList_toList]

private theorem reads_string (text : Text) :
    Reads (readLiteral depth) (Literal.quote text) (.string (String.ofList text)) :=
  ⟨quote_opens text, fun _ _ blank _ => readLiteral_string blank text⟩

private theorem isWordChar_of_isDigit {c : Char} (digit : isDigit c = true) : isWordChar c = true := by
  rw [isDigit_eq] at digit
  simp [isWordChar, Char.isAlphanum, digit]

private theorem start_of_readScalar {c : Char} {more : Text} {result : Datum × Text}
    (reads : readScalar (c :: more) = some result) : isWordChar c = true ∨ c = '-' := by
  by_cases sign : c = '-'
  · exact Or.inr sign
  cases digit : isDigit c with
  | true => exact Or.inl (isWordChar_of_isDigit digit)
  | false =>
    cases letter : isWordChar c with
    | true => exact Or.inl rfl
    | false =>
      rw [readScalar_unsigned sign, digit] at reads
      simp [readWord, letter, constant?] at reads

private theorem reads_scalar {value : Datum}
    (reads : ∀ rest, Ends rest → readScalar (text ++ rest) = some (value, rest))
    (nonempty : text ≠ []) : Reads (readLiteral depth) text value := by
  obtain ⟨c, more, rfl⟩ := List.exists_cons_of_ne_nil nonempty
  have begins := start_of_readScalar (reads [] (by simp [Ends]))
  have opens : opensLiteral c = true := by
    rcases begins with letter | rfl
    · simp [opensLiteral, letter]
    · decide
  refine ⟨⟨c, more, rfl, opens⟩, ?_⟩
  intro gap rest blank ends
  rw [List.cons_append, readLiteral_scalar blank begins, ← List.cons_append]
  exact reads rest ends

private theorem reads_constant {name : String} {value : Datum} (letters : name.toList.all isWordChar = true)
    (first : name.toList.head?.any (! isDigit ·) = true) (named : constant? name = some value) :
    Reads (readLiteral depth) name.toList value := by
  refine reads_scalar (fun rest ends => readScalar_constant letters first named ends) ?_
  intro empty
  rw [empty] at first
  contradiction

private theorem length_item_lt {items : List Value} {item : Value} (inside : item ∈ items) (level : Nat) :
    (layoutAt (level + 1) item).length < (layoutAt level (.array items)).length := by
  rw [layoutAt, itemsAt_eq]
  exact length_lt_enclosed '[' ']' level (List.mem_map_of_mem inside)

private theorem length_entry_lt {entries : List (String × Value)} {entry : String × Value} (inside : entry ∈ entries)
    (level : Nat) : (layoutAt (level + 1) entry.2).length < (layoutAt level (.hash entries)).length := by
  have member : entryAt (level + 1) entry ∈ entries.map (entryAt (level + 1)) := List.mem_map_of_mem inside
  have whole := length_lt_enclosed '\x7b' '\x7d' level member
  rw [layoutAt, entriesAt_eq]
  rw [entryAt, List.length_append] at whole
  omega

private theorem reads_items {items : List Value} {level : Nat}
    (each : ∀ item ∈ items, Reads (readLiteral depth) (layoutAt (level + 1) item) (datum item)) :
    Reads (readLiteral (depth + 1)) (layoutAt level (.array items)) (datum (.array items)) := by
  have parts : ∀ part ∈ items.map fun item => (layoutAt (level + 1) item, datum item),
      Reads (readLiteral depth) part.1 part.2 := List.forall_mem_map.mpr each
  have reads := readLiteral_array level parts
  rw [List.map_map, List.map_map] at reads
  rw [layoutAt, itemsAt_eq, datum, dataOf_eq]
  exact reads

private theorem reads_entries {entries : List (String × Value)} {level : Nat} (unique : Entries.Unique entries)
    (each : ∀ entry ∈ entries, Reads (readLiteral depth) (layoutAt (level + 1) entry.2) (datum entry.2)) :
    Reads (readLiteral (depth + 1)) (layoutAt level (.hash entries)) (datum (.hash entries)) := by
  have parts : ∀ part ∈ entries.map fun entry => (entryAt (level + 1) entry, entry.1, datum entry.2),
      Reads (readPair (readLiteral depth)) part.1 part.2 := by
    rw [List.forall_mem_map]
    intro entry inside
    exact readPair_entry (each entry inside) entry.1
  have keys : Entries.Unique
      ((entries.map fun entry => (entryAt (level + 1) entry, entry.1, datum entry.2)).map Prod.snd) := by
    rw [Entries.Unique, List.map_map, List.map_map]
    exact unique
  have reads := readLiteral_hash level parts keys
  rw [List.map_map, List.map_map] at reads
  rw [layoutAt, entriesAt_eq, datum, entriesOf_eq]
  exact reads

/-- A value reads back from what is printed for it at any depth. -/
theorem reads_layoutAt (value : Value) (keyed : Keyed value) (level : Nat)
    (enough : (layoutAt level value).length ≤ depth) :
    Reads (readLiteral depth) (layoutAt level value) (datum value) := by
  -- The depth is spent one container at a time, and what stands inside a container is shorter than its text.
  induction value generalizing level depth with
  | nil => exact reads_constant rfl rfl rfl
  | bool value =>
    cases value with
    | true => exact reads_constant rfl rfl rfl
    | false => exact reads_constant rfl rfl rfl
  | integer n => exact reads_scalar (fun rest ends => readScalar_integerText _ ends) (integerText_ne_nil _)
  | unsigned n => exact reads_scalar (fun rest ends => readScalar_natural _ ends) Nat.toDigits_ne_nil
  | float x => exact reads_scalar (fun rest ends => readScalar_floatText x ends) (floatText_ne_nil x)
  | string text =>
    have reads : Reads (readLiteral depth) _ _ := reads_string text.toList
    rw [String.ofList_toList] at reads
    exact reads
  | array items ih =>
    have positive := List.length_pos_iff.mpr (enclosed_ne_nil '[' ']' level (itemsAt (level + 1) items))
    obtain ⟨inner, rfl⟩ : ∃ inner, depth = inner + 1 := by
      rw [layoutAt] at enough
      exact Nat.exists_eq_add_one_of_ne_zero (by omega)
    apply reads_items
    intro item inside
    have shorter := length_item_lt inside level
    exact ih item inside (keyed_array.mp keyed item inside) (level + 1) (by omega)
  | hash entries ih =>
    have positive := List.length_pos_iff.mpr (enclosed_ne_nil '\x7b' '\x7d' level (entriesAt (level + 1) entries))
    obtain ⟨inner, rfl⟩ : ∃ inner, depth = inner + 1 := by
      rw [layoutAt] at enough
      exact Nat.exists_eq_add_one_of_ne_zero (by omega)
    obtain ⟨unique, values⟩ := keyed_hash.mp keyed
    apply reads_entries unique
    intro entry inside
    have shorter := length_entry_lt inside level
    exact ih entry inside (values entry inside) (level + 1) (by omega)

end Literals

end ChefDsl.Proofs.ValueReading
