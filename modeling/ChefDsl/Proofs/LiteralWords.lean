import ChefDsl.Proofs.ValueLayout

/-! The words of a literal: what is written outside of string literals, between blanks, commas and brackets. They are the
literals of the scalars in their order, each as it would be written alone, with an arrow for every entry of a hash. -/

namespace ChefDsl.Proofs.LiteralWords
open Literal Nesting ValueLayout QuoteReading

def gaps : List Char := [' ', '\n', ',', '[', ']', '\x7b', '\x7d']

def quotes : List Char := ['\'', '"']

def isGap (c : Char) : Bool := gaps.contains c

def isQuote (c : Char) : Bool := quotes.contains c

/-- Whether a character belongs to no word. -/
def isBreak (c : Char) : Bool := isGap c || isQuote c

/-- What stands outside of string literals, and the first quote of each. Inside a literal, which ends with the quote that
opened it, a backslash takes the next character with it. -/
def bare : Option Char → Text → Text
  | _, [] => []
  | none, c :: rest => c :: bare (if isQuote c then some c else none) rest
  | some mark, '\\' :: _ :: rest => bare (some mark) rest
  | some mark, c :: rest => if c = mark then bare none rest else bare (some mark) rest

def pieces (text : Text) : List Text := (text.splitOnP isBreak).filter fun piece => !piece.isEmpty

def words (text : Text) : List Text := pieces (bare none text)

mutual

/-- The literals of the scalars in a value, but for strings, with an arrow in front of those of an entry. -/
def wordsOf : Value → List Text
  | .string _ => []
  | .array items => itemWords items
  | .hash entries => entryWords entries
  | scalar => [scalar.literal]

def itemWords : List Value → List Text
  | [] => []
  | item :: rest => wordsOf item ++ itemWords rest

def entryWords : List (String × Value) → List Text
  | [] => []
  | (_, value) :: rest => "=>".toList :: (wordsOf value ++ entryWords rest)

end

theorem itemWords_eq (items : List Value) : itemWords items = items.flatMap wordsOf := by
  induction items with
  | nil => rfl
  | cons item rest ih => rw [itemWords, ih, List.flatMap_cons]

theorem entryWords_eq (entries : List (String × Value)) :
    entryWords entries = entries.flatMap fun entry => "=>".toList :: wordsOf entry.2 := by
  induction entries with
  | nil => rfl
  | cons entry rest ih => rw [entryWords, ih, List.flatMap_cons, List.cons_append]

section Quotes
variable {mark : Char}

private theorem bare_inside {text : Text} (plain : ∀ c ∈ text, c ≠ '\\' ∧ c ≠ mark) (rest : Text) :
    bare (some mark) (text ++ rest) = bare (some mark) rest := by
  induction text with
  | nil => rfl
  | cons c text ih =>
    obtain ⟨backslash, other⟩ := plain c (by simp)
    have step (text : Text) : bare (some mark) (c :: text) = bare (some mark) text := by
      rw [bare, if_neg other]
      intro _ _ same
      exact absurd same backslash
    rw [List.cons_append, step]
    apply ih
    intro c member
    exact plain c (by simp [member])

private theorem bare_escaped (c : Char) (rest : Text) :
    bare (some mark) ('\\' :: c :: rest) = bare (some mark) rest := by
  rw [bare]

private theorem bare_closing (plain : mark ≠ '\\') (rest : Text) :
    bare (some mark) (mark :: rest) = bare none rest := by
  rw [bare, if_pos rfl]
  intro _ _ same
  exact absurd same plain

private theorem bare_single (text rest : Text) :
    bare (some '\'') (text.flatMap escapeSingle ++ '\'' :: rest) = bare none rest := by
  induction text with
  | nil => exact bare_closing (by decide) rest
  | cons c text ih =>
    rw [List.flatMap_cons, List.append_assoc, escapeSingle]
    split
    · exact (bare_escaped c _).trans ih
    · next plain =>
      rw [not_or] at plain
      rw [bare_inside (by simpa using plain), ih]

private theorem plain_digitChar : ∀ digit < 16, Nat.digitChar digit ≠ '\\' ∧ Nat.digitChar digit ≠ '"' := by decide

private theorem bare_codePoint (n : Nat) (rest : Text) :
    bare (some '"') (['\\', 'u', '{'] ++ Nat.toDigits 16 n ++ ['}'] ++ rest) = bare (some '"') rest := by
  have plain : ∀ c ∈ '{' :: (Nat.toDigits 16 n ++ ['}']), c ≠ '\\' ∧ c ≠ '"' := by
    intro c member
    simp only [List.mem_cons, List.mem_append, List.not_mem_nil, or_false] at member
    rcases member with rfl | digit | rfl
    · decide
    · obtain ⟨value, small, rfl⟩ := exists_hexDigit digit
      exact plain_digitChar value small
    · decide
  have split : ['\\', 'u', '{'] ++ Nat.toDigits 16 n ++ ['}'] ++ rest =
      '\\' :: 'u' :: (('{' :: (Nat.toDigits 16 n ++ ['}'])) ++ rest) := by
    simp
  rw [split, bare_escaped, bare_inside plain]

private theorem bare_escapeDouble (c : Char) (rest : Text) :
    bare (some '"') (escapeDouble c ++ rest) = bare (some '"') rest := by
  unfold escapeDouble
  split
  case h_8 backslash quote _ _ _ _ _ =>
    split
    · exact bare_codePoint c.toNat rest
    · apply bare_inside
      intro other member
      rw [List.mem_singleton.mp member]
      exact ⟨backslash, quote⟩
  all_goals exact bare_escaped _ rest

private theorem bare_double (text rest : Text) :
    bare (some '"') (text.flatMap escapeDouble ++ '"' :: rest) = bare none rest := by
  induction text with
  | nil => exact bare_closing (by decide) rest
  | cons c text ih => rw [List.flatMap_cons, List.append_assoc, bare_escapeDouble, ih]

/-- Nothing of a string literal is left but its quote. -/
theorem bare_quote (text rest : Text) :
    ∃ mark, isBreak mark = true ∧ bare none (quote text ++ rest) = mark :: bare none rest := by
  unfold quote
  split
  · refine ⟨'"', by decide, ?_⟩
    have opened : doubleQuoted text ++ rest = '"' :: (text.flatMap escapeDouble ++ '"' :: rest) := by
      simp [doubleQuoted]
    rw [opened, ← bare_double text rest]
    rfl
  · refine ⟨'\'', by decide, ?_⟩
    have opened : singleQuoted text ++ rest = '\'' :: (text.flatMap escapeSingle ++ '\'' :: rest) := by
      simp [singleQuoted]
    rw [opened, ← bare_single text rest]
    rfl

end Quotes

section Pieces

private theorem pieces_break {c : Char} (stop : isBreak c = true) (first rest : Text) :
    pieces (first ++ c :: rest) = pieces first ++ pieces rest := by
  rw [pieces, List.splitOnP_append_cons first rest stop, List.filter_append, pieces, pieces]

private theorem pieces_word {word : Text} (nonempty : word ≠ []) (letters : ∀ c ∈ word, isBreak c = false) :
    pieces word = [word] := by
  rw [pieces, List.splitOnP_eq_singleton letters]
  simp [nonempty]

end Pieces

section Words
variable {text rest : Text}

private theorem isBreak_of_isGap {c : Char} (gap : isGap c = true) : isBreak c = true := by simp [isBreak, gap]

private theorem isQuote_of_isGap {c : Char} (gap : isGap c = true) : isQuote c = false := by
  have apart : gaps.all (fun c => !isQuote c) = true := by decide
  rw [isGap, List.contains_iff_mem] at gap
  simpa using List.all_eq_true.mp apart c gap

private theorem words_gap {c : Char} (gap : isGap c = true) (rest : Text) : words (c :: rest) = words rest := by
  rw [words, bare, isQuote_of_isGap gap]
  exact pieces_break (isBreak_of_isGap gap) [] (bare none rest)

private theorem words_gaps (gap : ∀ c ∈ text, isGap c = true) (rest : Text) : words (text ++ rest) = words rest := by
  induction text with
  | nil => rfl
  | cons c text ih =>
    rw [List.cons_append, words_gap (gap c (by simp))]
    apply ih
    intro other member
    exact gap other (by simp [member])

private theorem words_quote (text rest : Text) : words (quote text ++ rest) = words rest := by
  obtain ⟨mark, stop, left⟩ := bare_quote text rest
  rw [words, left]
  exact pieces_break stop [] (bare none rest)

private theorem bare_word (letters : ∀ c ∈ text, isBreak c = false) (rest : Text) :
    bare none (text ++ rest) = text ++ bare none rest := by
  induction text with
  | nil => rfl
  | cons c text ih =>
    have tail := ih fun other member => letters other (by simp [member])
    have letter := letters c (by simp)
    rw [isBreak, Bool.or_eq_false_iff] at letter
    rw [List.cons_append, bare, letter.2]
    exact congrArg (c :: ·) tail

/-- The text is empty or begins with a break. -/
def Stops (rest : Text) : Prop := ∀ c ∈ rest.head?, isBreak c = true

/-- In front of a break, the text has these words. -/
def Yields (text : Text) (found : List Text) : Prop := ∀ rest, Stops rest → words (text ++ rest) = found ++ words rest

private theorem yields_word (nonempty : text ≠ []) (letters : ∀ c ∈ text, isBreak c = false) : Yields text [text] := by
  intro rest stops
  rw [words, bare_word letters, words]
  cases rest with
  | nil =>
    rw [bare, List.append_nil, pieces_word nonempty letters]
    rfl
  | cons c rest =>
    have stop := stops c rfl
    rw [bare, pieces_break stop, pieces_word nonempty letters]
    exact congrArg ([text] ++ ·) (pieces_break stop [] _).symm

private theorem yields_quote (text : Text) : Yields (quote text) [] := fun rest _ => words_quote text rest

end Words

section Layout

theorem stops_gap {c : Char} (gap : isGap c = true) (rest : Text) : Stops (c :: rest) := by
  intro other head
  cases head
  exact isBreak_of_isGap gap

private theorem words_newline (depth : Nat) (rest : Text) : words (newline depth ++ rest) = words rest := by
  apply words_gaps
  intro c member
  rcases List.mem_cons.mp member with rfl | blank
  · decide
  · rw [List.eq_of_mem_replicate blank]
    decide

section Members
variable {α : Type} {items : List α} {text : α → Text} {found : α → List Text}

private theorem yields_members (depth : Nat) (each : ∀ item ∈ items, Yields (text item) (found item)) :
    Yields ((',' :: newline depth).intercalate (items.map text)) (items.flatMap found) := by
  induction items with
  | nil => exact fun rest _ => rfl
  | cons item items ih =>
    intro rest stops
    have first := each item (by simp)
    cases items with
    | nil => simpa using first rest stops
    | cons next others =>
      have tail := ih (fun other member => each other (by simp [member])) rest stops
      have comma : isGap ',' = true := by decide
      rw [List.map_cons] at tail
      rw [List.map_cons, List.map_cons, List.intercalate_cons_cons, List.append_assoc, List.append_assoc,
        List.cons_append, first _ (stops_gap comma _), words_gap comma, words_newline, tail]
      exact (List.append_assoc _ _ _).symm

/-- The brackets of a container and the gaps between its members add no words. -/
theorem yields_enclosed {opening closing : Char} (opens : isGap opening = true) (closes : isGap closing = true)
    (depth : Nat) (each : ∀ item ∈ items, Yields (text item) (found item)) :
    Yields (enclosed opening closing depth (items.map text)) (items.flatMap found) := by
  intro rest _
  by_cases empty : items = []
  · subst empty
    exact (words_gap opens _).trans (words_gap closes rest)
  · have members := yields_members (depth + 1) each (newline depth ++ closing :: rest) (stops_gap (by decide) _)
    have split : enclosed opening closing depth (items.map text) ++ rest = opening :: (newline (depth + 1) ++
        ((',' :: newline (depth + 1)).intercalate (items.map text) ++ (newline depth ++ closing :: rest))) := by
      simp [enclosed, empty]
    rw [split, words_gap opens, words_newline, members, words_newline, words_gap closes]

end Members

private theorem letters_of_all {text : Text} (all : text.all (fun c => !isBreak c) = true) :
    ∀ c ∈ text, isBreak c = false := by
  simpa using all

private theorem letter_of_isNumberChar {c : Char} (number : isNumberChar c = true) : isBreak c = false := by
  have never : (gaps ++ quotes).all (fun c => !isNumberChar c) = true := by decide
  by_contra stop
  rw [Bool.not_eq_false, isBreak, Bool.or_eq_true, isGap, isQuote, List.contains_iff_mem, List.contains_iff_mem,
    ← List.mem_append] at stop
  have plain := List.all_eq_true.mp never c stop
  rw [number] at plain
  contradiction

private theorem letter_floatText {x : Binary64} {c : Char} (member : c ∈ Value.floatText x) : isBreak c = false := by
  rcases mem_floatText member with number | undefined | infinity
  · exact letter_of_isNumberChar number
  · exact letters_of_all (by decide) c undefined
  · exact letters_of_all (by decide) c infinity

private theorem yields_entry {key : Text} {text : Text} {found : List Text} (value : Yields text found) :
    Yields (quote key ++ Value.arrow ++ text) ("=>".toList :: found) := by
  intro rest stops
  have arrow : Yields "=>".toList ["=>".toList] := yields_word (by simp) (letters_of_all (by decide))
  have split : quote key ++ Value.arrow ++ text ++ rest =
      quote key ++ ' ' :: ("=>".toList ++ ' ' :: (text ++ rest)) := by
    simp [Value.arrow]
  have blank : isGap ' ' = true := by decide
  rw [split, words_quote, words_gap blank, arrow _ (stops_gap blank _), words_gap blank, value rest stops]
  rfl

private theorem yields_layoutAt (value : Value) (depth : Nat) : Yields (layoutAt depth value) (wordsOf value) := by
  induction value generalizing depth with
  | nil =>
    have word : Yields "nil".toList ["nil".toList] := yields_word (by simp) (letters_of_all (by decide))
    exact word
  | bool value =>
    cases value with
    | true =>
      have word : Yields "true".toList ["true".toList] := yields_word (by simp) (letters_of_all (by decide))
      exact word
    | false =>
      have word : Yields "false".toList ["false".toList] := yields_word (by simp) (letters_of_all (by decide))
      exact word
  | integer n =>
    apply yields_word (integerText_ne_nil n.toInt)
    intro c member
    exact letter_of_isNumberChar (isNumberChar_integerText member)
  | unsigned n =>
    apply yields_word (integerText_ne_nil n.toNat)
    intro c member
    exact letter_of_isNumberChar (isNumberChar_integerText (n := n.toNat) member)
  | float x =>
    apply yields_word (floatText_ne_nil x)
    intro c member
    exact letter_floatText member
  | string text => exact yields_quote text.toList
  | array items ih =>
    rw [layoutAt, itemsAt_eq, wordsOf, itemWords_eq]
    apply yields_enclosed (by decide) (by decide)
    intro item member
    exact ih item member (depth + 1)
  | hash entries ih =>
    rw [layoutAt, entriesAt_eq, wordsOf, entryWords_eq]
    apply yields_enclosed (by decide) (by decide)
    intro entry member
    exact yields_entry (ih entry member (depth + 1))

/-- The words of a value on the page are the literals of its scalars, whatever its strings and keys are. -/
theorem words_format (value : Value) (level : Level) : words (value.format level) = wordsOf value := by
  have yields := yields_layoutAt value level.depth [] (by simp [Stops])
  rw [List.append_nil] at yields
  rw [format_eq, yields]
  exact List.append_nil _

end Layout

end ChefDsl.Proofs.LiteralWords
