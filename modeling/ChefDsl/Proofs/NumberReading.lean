import ChefDsl.Proofs.NumeralShape
import ChefDsl.Proofs.SourceReader
import ChefDsl.Proofs.TextLines

/-! Numbers read back exactly. A whole number reads back as itself, and the text of a finite double as a decimal of
the value that was chosen to stand for it, so that rounding gives the double again. What follows the number matters
only by its first character, which must not continue it. -/

namespace ChefDsl.Proofs.NumberReading
open SourceReader Decimal TextLines NumeralShape

/-- The characters that may follow a literal. -/
def endsLiteral (c : Char) : Bool := c == ',' || c == ')' || c == ']' || c == '\x7d' || c == '\n'

/-- The text is empty or begins with a character that may follow a literal. -/
def Ends (rest : Text) : Prop := ∀ c ∈ rest.head?, endsLiteral c = true

theorem eq_of_endsLiteral {c : Char} (ends : endsLiteral c = true) :
    c = ',' ∨ c = ')' ∨ c = ']' ∨ c = '\x7d' ∨ c = '\n' := by
  simpa [endsLiteral, or_assoc] using ends

private theorem isDigit_of_endsLiteral {c : Char} (ends : endsLiteral c = true) : isDigit c = false := by
  rcases eq_of_endsLiteral ends with rfl | rfl | rfl | rfl | rfl <;> decide

theorem isWordChar_of_endsLiteral {c : Char} (ends : endsLiteral c = true) : isWordChar c = false := by
  rcases eq_of_endsLiteral ends with rfl | rfl | rfl | rfl | rfl <;> decide

section Numerals
variable {digits whole fraction rest : Text}

private theorem stop_of_ends (ends : Ends rest) : ∀ c ∈ rest.head?, isDigit c = false :=
  fun c head => isDigit_of_endsLiteral (ends c head)

private theorem readDigits_append (digit : ∀ c ∈ digits, isDigit c = true) (nonempty : digits ≠ [])
    (stop : ∀ c ∈ rest.head?, isDigit c = false) : readDigits (digits ++ rest) = some (digits, rest) := by
  simp [readDigits, takeWhile_boundary digit stop, dropWhile_boundary digit stop, nonempty]

theorem readNumber_integer (negative : Bool) (numeral : Numeral digits) (ends : Ends rest) :
    readNumber negative (digits ++ rest) =
      some (.integer (if negative then -(Nat.ofDigitChars 10 digits 0) else Nat.ofDigitChars 10 digits 0), rest) := by
  have point : rest.head? ≠ some '.' := fun head => absurd (ends _ head) (by decide)
  have mark : rest.head? ≠ some 'e' := fun head => absurd (ends _ head) (by decide)
  have leading : ¬ (digits.head? = some '0' ∧ digits ≠ ['0']) := fun ⟨zero, more⟩ => more (numeral.leading zero)
  simp [readNumber, readDigits_append numeral.digit numeral.nonempty (stop_of_ends ends), leading, point, mark]

private theorem readExponent_absent (ends : Ends rest) : readExponent rest = some (0, rest) := by
  have mark : rest.head? ≠ some 'e' := fun head => absurd (ends _ head) (by decide)
  cases rest with
  | nil => rfl
  | cons c rest => simp [readExponent, show c ≠ 'e' by simpa using mark]

private theorem readExponent_unsigned {first : Char} (unsigned : first ≠ '-') (more : Text) :
    readExponent ('e' :: first :: more) =
      (readDigits (first :: more)).map fun (digits, rest) => (Nat.ofDigitChars 10 digits 0, rest) := by
  rw [readExponent]
  intro _ same
  exact absurd (List.cons_eq_cons.mp same).1 unsigned

private theorem readExponent_integerText (exponent : Int) (ends : Ends rest) :
    readExponent ('e' :: (integerText exponent ++ rest)) = some (exponent, rest) := by
  have numeral := numeral_toDigits exponent.natAbs
  have reads := readDigits_append numeral.digit numeral.nonempty (stop_of_ends ends)
  unfold integerText
  split
  next negative =>
    have value : exponent = -(exponent.natAbs : Int) := by omega
    rw [List.cons_append]
    simp only [readExponent, reads, Option.map_some, Nat.ofDigitChars_ten_toDigits, ← value]
  next natural =>
    have value : (exponent.natAbs : Int) = exponent := by omega
    -- The first digit is no sign, so the exponent is read without one.
    obtain ⟨first, more, split⟩ := List.exists_cons_of_ne_nil numeral.nonempty
    have unsigned : first ≠ '-' := by
      rintro rfl
      exact absurd (numeral.digit '-' (by simp [split])) (by decide)
    rw [split, List.cons_append, readExponent_unsigned unsigned, ← List.cons_append, ← split, reads]
    simp only [Option.map_some, Nat.ofDigitChars_ten_toDigits, value]

private theorem readNumber_positional (negative : Bool) (numeral : Numeral whole)
    (digit : ∀ c ∈ fraction, isDigit c = true) (nonempty : fraction ≠ []) (ends : Ends rest) :
    readNumber negative (whole ++ '.' :: (fraction ++ rest)) =
      some (.float (floatOf negative (whole ++ fraction) (-fraction.length)), rest) := by
  have leading : ¬ (whole.head? = some '0' ∧ whole ≠ ['0']) := fun ⟨zero, more⟩ => more (numeral.leading zero)
  have before : readDigits (whole ++ '.' :: (fraction ++ rest)) = some (whole, '.' :: (fraction ++ rest)) :=
    readDigits_append numeral.digit numeral.nonempty (by simp; decide)
  have after := readDigits_append digit nonempty (stop_of_ends ends)
  simp [readNumber, before, leading, readFraction, after, readExponent_absent ends]

private theorem readNumber_exponent (negative : Bool) (numeral : Numeral whole) (exponent : Int) (ends : Ends rest) :
    readNumber negative (whole ++ 'e' :: (integerText exponent ++ rest)) =
      some (.float (floatOf negative whole exponent), rest) := by
  have leading : ¬ (whole.head? = some '0' ∧ whole ≠ ['0']) := fun ⟨zero, more⟩ => more (numeral.leading zero)
  have before : readDigits (whole ++ 'e' :: (integerText exponent ++ rest)) =
      some (whole, 'e' :: (integerText exponent ++ rest)) :=
    readDigits_append numeral.digit numeral.nonempty (by simp; decide)
  simp [readNumber, before, leading, readFraction, readExponent_integerText exponent ends]

private theorem readNumber_scientific (negative : Bool) (numeral : Numeral whole)
    (digit : ∀ c ∈ fraction, isDigit c = true) (nonempty : fraction ≠ []) (exponent : Int) (ends : Ends rest) :
    readNumber negative (whole ++ '.' :: (fraction ++ 'e' :: (integerText exponent ++ rest))) =
      some (.float (floatOf negative (whole ++ fraction) (exponent - fraction.length)), rest) := by
  have leading : ¬ (whole.head? = some '0' ∧ whole ≠ ['0']) := fun ⟨zero, more⟩ => more (numeral.leading zero)
  have before : readDigits (whole ++ '.' :: (fraction ++ 'e' :: (integerText exponent ++ rest))) =
      some (whole, '.' :: (fraction ++ 'e' :: (integerText exponent ++ rest))) :=
    readDigits_append numeral.digit numeral.nonempty (by simp; decide)
  have after : readDigits (fraction ++ 'e' :: (integerText exponent ++ rest)) =
      some (fraction, 'e' :: (integerText exponent ++ rest)) :=
    readDigits_append digit nonempty (by simp; decide)
  simp [readNumber, before, leading, readFraction, after, readExponent_integerText exponent ends]

/-- What stands in the text of a double is read at its exact value and rounded once. -/
theorem readNumber_written (negative : Bool) {token : Text} {shown : Decimal} (written : Written token shown)
    (ends : Ends rest) :
    readNumber negative (token ++ rest) = some (.float (.ofMagnitude negative shown.magnitude), rest) := by
  cases written with
  | point numeral digit nonempty =>
    rw [List.append_assoc, List.cons_append]
    exact readNumber_positional negative numeral digit nonempty ends
  | mark numeral exponent =>
    rw [List.append_assoc, List.cons_append]
    exact readNumber_exponent negative numeral exponent ends
  | pointMark numeral digit nonempty exponent =>
    rw [List.append_assoc, List.cons_append, List.append_assoc, List.cons_append]
    exact readNumber_scientific negative numeral digit nonempty exponent ends

/-- The text of a finite double reads back as that double. -/
theorem readNumber_shortest (negative : Bool) {magnitude : Nat} (finite : magnitude < Binary64.infinite)
    (ends : Ends rest) : readNumber negative (Value.floatLayout.shortest magnitude ++ rest) =
      some (.float (.ofMagnitude negative magnitude), rest) := by
  obtain ⟨shown, written, value, _, _⟩ := shows_shortest finite
  rw [readNumber_written negative written ends, value]

end Numerals

end ChefDsl.Proofs.NumberReading
