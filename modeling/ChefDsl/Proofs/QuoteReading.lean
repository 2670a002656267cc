import ChefDsl.Literal
import ChefDsl.Proofs.SourceReader
import ChefDsl.Proofs.TextLines

/-! String literals read back as the text they were written for, whatever follows them. They hold no control
character, so no literal spans lines and indentation never reaches inside one. -/

namespace ChefDsl.Proofs.QuoteReading
open Literal SourceReader TextLines

private theorem readSingle_escaped (text rest : Text) :
    readSingle (text.flatMap escapeSingle ++ '\'' :: rest) = some (text, rest) := by
  induction text with
  | nil => simp [readSingle]
  | cons c text ih =>
    rw [List.flatMap_cons, List.append_assoc]
    by_cases backslash : c = '\\'
    · subst c
      simp [escapeSingle, readSingle, ih, prepend]
    by_cases quote : c = '\''
    · subst c
      simp [escapeSingle, readSingle, ih, prepend]
    simp [escapeSingle, backslash, quote, readSingle, ih, prepend]

private theorem hexValue_digitChar : ∀ digit < 16, hexValue? (Nat.digitChar digit) = some digit := by decide

private theorem digitChar_ne_brace : ∀ digit < 16, Nat.digitChar digit ≠ '}' := by decide

private theorem readCodePoint_digits (n : Nat) : ∃ first more value, Nat.toDigits 16 n = first :: more ∧
    hexValue? first = some value ∧ ∀ rest, readCodePoint value (more ++ rest) = readCodePoint n rest := by
  by_cases small : n < 16
  · exact ⟨_, [], n, Nat.toDigits_of_lt_base small, hexValue_digitChar n small, fun _ => rfl⟩
  · obtain ⟨first, more, value, digits, leading, reads⟩ := readCodePoint_digits (n / 16)
    have last : n % 16 < 16 := Nat.mod_lt n (by decide)
    refine ⟨first, more ++ [Nat.digitChar (n % 16)], value, ?_, leading, ?_⟩
    · rw [Nat.toDigits_of_base_le (by decide) (Nat.le_of_not_lt small), digits, List.cons_append]
    · intro rest
      rw [List.append_assoc, reads]
      simp [readCodePoint, digitChar_ne_brace _ last, hexValue_digitChar _ last, Nat.div_add_mod']
termination_by n
decreasing_by omega

private theorem readDouble_codePoint (c : Char) (rest : Text) :
    readDouble (['\\', 'u', '{'] ++ Nat.toDigits 16 c.toNat ++ ['}'] ++ rest) = prepend c (readDouble rest) := by
  obtain ⟨first, more, value, digits, leading, reads⟩ := readCodePoint_digits c.toNat
  have valid : c.toNat.isValidChar := c.valid
  rw [digits]
  simp [readDouble, leading, reads, readCodePoint, valid]

private theorem readDouble_plain {c : Char} (backslash : c ≠ '\\') (quote : c ≠ '"') (hash : c ≠ '#') (rest : Text) :
    readDouble (c :: rest) = prepend c (readDouble rest) := by
  rw [readDouble]
  · exact quote
  · exact hash
  · intro _ _ same
    exact absurd same backslash
  · intro _ _ same
    exact absurd same backslash

private theorem readDouble_escape (c : Char) (rest : Text) :
    readDouble (escapeDouble c ++ rest) = prepend c (readDouble rest) := by
  unfold escapeDouble
  split
  case h_8 backslash quote hash _ _ _ _ =>
    split
    · exact readDouble_codePoint c rest
    · exact readDouble_plain backslash quote hash rest
  all_goals simp [readDouble, escape?]

private theorem readDouble_escaped (text rest : Text) :
    readDouble (text.flatMap escapeDouble ++ '"' :: rest) = some (text, rest) := by
  induction text with
  | nil => simp [readDouble]
  | cons c text ih =>
    rw [List.flatMap_cons, List.append_assoc, readDouble_escape, ih]
    rfl

private theorem readString_singleQuoted (text rest : Text) :
    readString (singleQuoted text ++ rest) = some (text, rest) := by
  simpa [singleQuoted, readString] using readSingle_escaped text rest

private theorem readString_doubleQuoted (text rest : Text) :
    readString (doubleQuoted text ++ rest) = some (text, rest) := by
  simpa [doubleQuoted, readString] using readDouble_escaped text rest

theorem readString_quote (text rest : Text) : readString (quote text ++ rest) = some (text, rest) := by
  unfold quote
  split
  · exact readString_doubleQuoted text rest
  · exact readString_singleQuoted text rest

private theorem isControl_digitChar : ∀ digit < 16, isControl (Nat.digitChar digit) = false := by decide

theorem exists_hexDigit {n : Nat} {c : Char} (member : c ∈ Nat.toDigits 16 n) : ∃ digit < 16, c = Nat.digitChar digit := by
  rw [Nat.toDigits_eq_if (by decide)] at member
  split at member
  next small => exact ⟨n, small, List.mem_singleton.mp member⟩
  next large =>
    rcases List.mem_append.mp member with before | last
    · exact exists_hexDigit before
    · exact ⟨_, Nat.mod_lt n (by decide), List.mem_singleton.mp last⟩
termination_by n
decreasing_by omega

private theorem isControl_hexDigits {n : Nat} {c : Char} (member : c ∈ Nat.toDigits 16 n) : isControl c = false := by
  obtain ⟨digit, small, rfl⟩ := exists_hexDigit member
  exact isControl_digitChar digit small

private theorem isControl_escapeDouble {c escaped : Char} (member : escaped ∈ escapeDouble c) :
    isControl escaped = false := by
  unfold escapeDouble at member
  split at member
  case h_8 =>
    split at member
    next =>
      simp only [List.mem_append, List.mem_cons, List.not_mem_nil, or_false] at member
      rcases member with ((rfl | rfl | rfl) | digit) | rfl
      · decide
      · decide
      · decide
      · exact isControl_hexDigits digit
      · decide
    next visible =>
      rw [List.mem_singleton.mp member]
      simpa using visible
  all_goals
    simp only [List.mem_cons, List.not_mem_nil, or_false] at member
    rcases member with rfl | rfl <;> decide

private theorem isControl_doubleQuoted {text : Text} {c : Char} (member : c ∈ doubleQuoted text) :
    isControl c = false := by
  simp only [doubleQuoted, List.mem_append, List.mem_singleton, List.mem_flatMap] at member
  rcases member with (rfl | ⟨original, _, escaped⟩) | rfl
  · decide
  · exact isControl_escapeDouble escaped
  · decide

private theorem isControl_singleQuoted {text : Text} (visible : text.any isControl = false) {c : Char}
    (member : c ∈ singleQuoted text) : isControl c = false := by
  simp only [singleQuoted, List.mem_append, List.mem_singleton, List.mem_flatMap] at member
  rcases member with (rfl | ⟨original, inside, escaped⟩) | rfl
  · decide
  · have plain : isControl original = false := by
      simpa using List.any_eq_false.mp visible original inside
    unfold escapeSingle at escaped
    split at escaped
    · simp only [List.mem_cons, List.not_mem_nil, or_false] at escaped
      rcases escaped with rfl | rfl
      · decide
      · exact plain
    · rw [List.mem_singleton.mp escaped]
      exact plain
  · decide

theorem isControl_quote {text : Text} {c : Char} (member : c ∈ quote text) : isControl c = false := by
  unfold quote at member
  split at member
  next => exact isControl_doubleQuoted member
  next visible => exact isControl_singleQuoted (by simpa using visible) member

private theorem newline_notMem {literal : Text} (visible : ∀ c ∈ literal, isControl c = false) : '\n' ∉ literal := by
  intro member
  have newline := visible '\n' member
  contradiction

theorem newline_notMem_quote (text : Text) : '\n' ∉ quote text := newline_notMem fun _ => isControl_quote

theorem quote_eq_cons (text : Text) : ∃ body, quote text = '\'' :: body ∨ quote text = '"' :: body := by
  unfold quote
  split
  · exact ⟨_, Or.inr rfl⟩
  · exact ⟨_, Or.inl rfl⟩

private theorem head_quote (text : Text) : (quote text).head? = some '\'' ↔ text.any isControl = false := by
  rw [quote]
  cases text.any isControl with
  | true => simp [doubleQuoted]
  | false => simp [singleQuoted]

/-- A literal reads back as its text and leaves whatever follows it. Where the text decides on the quotes, and between
double quotes always, the literal names control characters instead of holding them and so stands on one line. -/
theorem literals_delimited (text : Text) :
    (∀ rest, readString (quote text ++ rest) = some (text, rest) ∧
      readString (singleQuoted text ++ rest) = some (text, rest) ∧
      readString (doubleQuoted text ++ rest) = some (text, rest)) ∧
    (quote text).any isControl = false ∧ (doubleQuoted text).any isControl = false ∧
    Text.lines (quote text) = [quote text] ∧ Text.lines (doubleQuoted text) = [doubleQuoted text] ∧
    ((quote text).head? = some '\'' ↔ text.any isControl = false) := by
  have quoted : ∀ c ∈ quote text, isControl c = false := fun _ => isControl_quote
  have double : ∀ c ∈ doubleQuoted text, isControl c = false := fun _ => isControl_doubleQuoted
  refine ⟨?_, ?_, ?_, lines_plain (newline_notMem quoted), lines_plain (newline_notMem double), head_quote text⟩
  · intro rest
    exact ⟨readString_quote text rest, readString_singleQuoted text rest, readString_doubleQuoted text rest⟩
  · simpa using quoted
  · simpa using double

end ChefDsl.Proofs.QuoteReading
