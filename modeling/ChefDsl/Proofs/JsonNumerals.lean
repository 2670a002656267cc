import ChefDsl.Json.Numeral
import ChefDsl.Proofs.CanonicalValues
import ChefDsl.Proofs.NumeralShape
import ChefDsl.Proofs.TextLines
import ChefDsl.Value.Basic

/-! What the JSON reader makes of the text of a double. All digits fit its significand, so that the double it finds is
that of the decimal that the text shows, computed in the reader's own way: the significand is rounded, and multiplied by
a power of ten or divided by it. A reading may still fail, where this double is infinite. -/

namespace ChefDsl.Proofs.JsonNumerals
open Json NumeralShape TextLines

/-- If the reading succeeds, what it finds has a property and a given text is left. -/
def Finds {α : Type} {text : Text} (reading : Reading α text) (is : α → Prop) (rest : Text) : Prop :=
  ∀ step, reading = .ok step → is step.value ∧ step.rest = rest

theorem Finds.map {α β : Type} {first second rest : Text} {reading : Reading α first} {is : α → Prop} {also : β → Prop}
    {change : Step α first → Step β second} (finds : Finds reading is rest)
    (kept : ∀ step, is step.value → also (change step).value ∧ (change step).rest = step.rest) :
    Finds (reading.map change) also rest := by
  intro step given
  cases reading with
  | error fault => cases given
  | ok before =>
    obtain ⟨value, left⟩ := finds before rfl
    obtain ⟨changed, same⟩ := kept before value
    cases given
    exact ⟨changed, same.trans left⟩

theorem Finds.extend {α : Type} {part text rest : Text} {reading : Reading α part} {is : α → Prop}
    (finds : Finds reading is rest) (left : part <:+ text) : Finds (reading.map (·.extend left)) is rest :=
  finds.map fun _ value => ⟨value, rfl⟩

/-- The characters that may follow a value of a document. -/
def endsValue (c : Char) : Bool := isSpace c || c == ',' || c == ']' || c == '\x7d'

/-- The text is empty or begins with a character that may follow a value. -/
def Stops (rest : Text) : Prop := ∀ c ∈ rest.head?, endsValue c = true

private theorem eq_of_endsValue {c : Char} (ends : endsValue c = true) :
    c = ' ' ∨ c = '\n' ∨ c = '\t' ∨ c = '\r' ∨ c = ',' ∨ c = ']' ∨ c = '\x7d' := by
  simpa [endsValue, isSpace, or_assoc] using ends

private theorem isDigit_of_endsValue {c : Char} (ends : endsValue c = true) : isDigit c = false := by
  rcases eq_of_endsValue ends with rfl | rfl | rfl | rfl | rfl | rfl | rfl <;> decide

section Digits
variable {digits rest : Text}

private theorem le_ofDigitChars (digits : Text) (start : Nat) : start ≤ Nat.ofDigitChars 10 digits start := by
  induction digits generalizing start with
  | nil => exact Nat.le_refl start
  | cons c rest ih =>
    rw [Nat.ofDigitChars_cons]
    have tail := ih (10 * start + (c.toNat - '0'.toNat))
    omega

/-- Digits are gathered up to their end if the number they form stays within the bound. -/
theorem gather_append {bound value : Nat} (digit : ∀ c ∈ digits, isDigit c = true)
    (stop : ∀ c ∈ rest.head?, isDigit c = false) (fits : Nat.ofDigitChars 10 digits value ≤ bound) :
    (gather bound value (digits ++ rest)).value = Nat.ofDigitChars 10 digits value ∧
      (gather bound value (digits ++ rest)).rest = rest := by
  induction digits generalizing value with
  | nil =>
    cases rest with
    | nil => exact ⟨rfl, rfl⟩
    | cons c rest =>
      have last : isDigit c = false := stop c rfl
      simp [gather, last, Nat.ofDigitChars]
  | cons c digits ih =>
    have first : isDigit c = true := digit c (by simp)
    have next : value * 10 + digitValue c = 10 * value + (c.toNat - '0'.toNat) := by rw [Nat.mul_comm, digitValue]
    rw [Nat.ofDigitChars_cons, ← next] at fits ⊢
    have inside : value * 10 + digitValue c ≤ bound := Nat.le_trans (le_ofDigitChars digits _) fits
    rw [List.cons_append, gather, if_pos ⟨first, inside⟩]
    exact ih (fun other inside => digit other (by simp [inside])) fits

private theorem passDigits_stop (stop : ∀ c ∈ rest.head?, isDigit c = false) :
    (passDigits rest).value = 0 ∧ (passDigits rest).rest = rest := by
  cases rest with
  | nil => exact ⟨rfl, rfl⟩
  | cons c rest => simp [passDigits, stop c rfl]

/-- Digits that fit are read to their end, and none of them is passed over. -/
theorem digits_append {bound value : Nat} {text : Text} (split : text = digits ++ rest)
    (digit : ∀ c ∈ digits, isDigit c = true) (stop : ∀ c ∈ rest.head?, isDigit c = false)
    (fits : Nat.ofDigitChars 10 digits value ≤ bound) :
    (gather bound value text).value = Nat.ofDigitChars 10 digits value ∧ (gather bound value text).rest = rest ∧
      (passDigits (gather bound value text).rest).value = 0 ∧
        (passDigits (gather bound value text).rest).rest = rest := by
  subst split
  obtain ⟨gathered, left⟩ := gather_append digit stop fits
  refine ⟨gathered, left, ?_⟩
  rw [left]
  exact passDigits_stop stop

private theorem head_append {digits : Text} (numeral : Numeral digits) (rest : Text) :
    ∃ c, (digits ++ rest).head? = some c ∧ isDigit c = true := by
  obtain ⟨c, more, rfl⟩ := List.exists_cons_of_ne_nil numeral.nonempty
  exact ⟨c, rfl, numeral.digit c (by simp)⟩

private theorem isDigit_stop (stops : Stops rest) : ∀ c ∈ rest.head?, isDigit c = false :=
  fun c head => isDigit_of_endsValue (stops c head)

end Digits

section Scales
variable {text rest : Text} (negative : Bool) (significand : Nat) (power : Int)

/-- The double that the reader makes of a decimal. -/
def double (negative : Bool) (shown : Decimal) : Binary64 :=
  Binary64.ofMagnitude negative (scaleByPower shown.digits shown.exponent)

private theorem finds_scientific {unread : Text} {exponent : Int} (left : unread <:+ text) (same : unread = rest)
    (place : exponent = power) :
    Finds (numberOr (Number.ofScientific? negative significand exponent) left)
      (Value.ofNumber · = .float (double negative ⟨significand, power⟩)) rest := by
  subst same place
  intro step given
  unfold Number.ofScientific? at given
  dsimp only at given
  split at given
  · cases given
    exact ⟨rfl, rfl⟩
  · cases given

/-- Once the sign is taken, the exponent is read to its end, for it is far below its bound. -/
theorem finds_signed {lowers : Bool} {digits : Text} (numeral : Numeral digits)
    (short : Nat.ofDigitChars 10 digits 0 < 1000) (sign : (takeSign text).value = lowers)
    (split : (takeSign text).rest = digits ++ rest) (stops : Stops rest) :
    Finds (readExponent negative significand power text)
      (Value.ofNumber · = .float (double negative ⟨significand,
        if lowers then power - Nat.ofDigitChars 10 digits 0 else power + Nat.ofDigitChars 10 digits 0⟩)) rest := by
  obtain ⟨c, head, first⟩ := head_append numeral rest
  have fits : Nat.ofDigitChars 10 digits 0 ≤ exponentBound := Nat.le_trans short.le (by decide)
  obtain ⟨gathered, _, none, left⟩ := digits_append split numeral.digit (isDigit_stop stops) fits
  rw [← split] at head
  unfold readExponent
  simp only [head, first, none, Bool.not_true, Bool.false_eq_true, ↓reduceIte]
  apply finds_scientific negative significand _ _ left
  simp only [sign, gathered]

private theorem takeSign_digits {digits : Text} (numeral : Numeral digits) (rest : Text) :
    (takeSign (digits ++ rest)).value = false ∧ (takeSign (digits ++ rest)).rest = digits ++ rest := by
  obtain ⟨c, head, first⟩ := head_append numeral rest
  generalize digits ++ rest = text at *
  have unsigned (sign : Char) (digit : isDigit sign = false) (more : Text) : text ≠ sign :: more := by
    rintro rfl
    cases head
    exact absurd first (by simp [digit])
  rw [takeSign]
  · exact ⟨rfl, rfl⟩
  · exact fun more => unsigned '+' (by decide) more
  · exact fun more => unsigned '-' (by decide) more

private theorem finds_exponent {exponent : Int} (short : exponent.natAbs < 1000) (stops : Stops rest) :
    Finds (readExponent negative significand power (Decimal.integerText exponent ++ rest))
      (Value.ofNumber · = .float (double negative ⟨significand, power + exponent⟩)) rest := by
  have numeral := numeral_toDigits exponent.natAbs
  have digits : Nat.ofDigitChars 10 (Nat.toDigits 10 exponent.natAbs) 0 = exponent.natAbs :=
    Nat.ofDigitChars_ten_toDigits
  have finds (lowers : Bool) (text : Text) (sign : (takeSign text).value = lowers)
      (split : (takeSign text).rest = Nat.toDigits 10 exponent.natAbs ++ rest) :=
    finds_signed negative significand power numeral (digits.symm ▸ short) sign split stops
  rw [digits] at finds
  unfold Decimal.integerText
  by_cases minus : exponent < 0
  · have lower : power + exponent = power - exponent.natAbs := by omega
    rw [if_pos minus, lower]
    exact finds true _ rfl rfl
  · have higher : power + exponent = power + exponent.natAbs := by omega
    obtain ⟨sign, split⟩ := takeSign_digits numeral rest
    rw [if_neg minus, higher]
    exact finds false _ sign split

/-- Without a mark the digits alone make the number. -/
theorem finds_unscaled (stops : Stops rest) : Finds (readScale negative significand power rest)
    (Value.ofNumber · = .float (double negative ⟨significand, power⟩)) rest := by
  unfold readScale
  split
  next => exact absurd (stops 'e' rfl) (by decide)
  next => exact absurd (stops 'E' rfl) (by decide)
  next => exact finds_scientific negative significand power _ rfl rfl

private theorem finds_scaled {exponent : Int} (short : exponent.natAbs < 1000) (stops : Stops rest) :
    Finds (readScale negative significand power ('e' :: (Decimal.integerText exponent ++ rest)))
      (Value.ofNumber · = .float (double negative ⟨significand, power + exponent⟩)) rest :=
  (finds_exponent negative significand power short stops).extend _

end Scales

section Magnitudes
variable {negative : Bool} {significand : Nat} {power : Int} {is : Number → Prop} {whole fraction tail rest : Text}

private theorem finds_fraction (digit : ∀ c ∈ fraction, isDigit c = true) (nonempty : fraction ≠ [])
    (stop : ∀ c ∈ tail.head?, isDigit c = false) (fits : Nat.ofDigitChars 10 fraction significand ≤ significandBound)
    (finds : Finds (readScale negative (Nat.ofDigitChars 10 fraction significand) (power - fraction.length) tail)
      is rest) :
    Finds (readFraction negative significand power (fraction ++ tail)) is rest := by
  obtain ⟨c, more, split⟩ := List.exists_cons_of_ne_nil nonempty
  have head : (fraction ++ tail).head? = some c := by rw [split]; rfl
  have first : isDigit c = true := digit c (by simp [split])
  obtain ⟨gathered, left, _, behind⟩ := digits_append rfl digit stop fits
  have places : (fraction ++ tail).length - tail.length = fraction.length := by simp
  unfold readFraction
  simp only [head, first, gathered, left, places, Bool.not_true, Bool.false_eq_true, ↓reduceIte]
  apply Finds.extend
  rw [behind]
  exact finds

/-- Only a single zero begins with a zero. -/
theorem leading_append {c : Char} {more : Text} (numeral : Numeral (c :: more))
    (stop : ∀ c ∈ tail.head?, isDigit c = false) : ¬ (c = '0' ∧ ((more ++ tail).head?.any isDigit) = true) := by
  rintro ⟨rfl, digit⟩
  have single := numeral.leading rfl
  cases single
  cases tail with
  | nil => cases digit
  | cons d rest =>
    have other := stop d rfl
    simp [other] at digit

/-- Digits that are followed by a point or by an exponent mark. -/
theorem finds_magnitude (numeral : Numeral whole) (fits : Nat.ofDigitChars 10 whole 0 ≤ significandBound)
    (continues : (∃ fraction, tail = '.' :: fraction ∧
        Finds (readFraction negative (Nat.ofDigitChars 10 whole 0) 0 fraction) is rest) ∨
      ∃ exponent, tail = 'e' :: exponent ∧ Finds (readScale negative (Nat.ofDigitChars 10 whole 0) 0 tail) is rest) :
    Finds (readMagnitude negative (whole ++ tail)) is rest := by
  have stop : ∀ c ∈ tail.head?, isDigit c = false := by
    rcases continues with ⟨_, rfl, _⟩ | ⟨_, rfl, _⟩ <;> simp <;> decide
  obtain ⟨c, more, rfl⟩ := List.exists_cons_of_ne_nil numeral.nonempty
  have first : isDigit c = true := numeral.digit c (by simp)
  obtain ⟨gathered, _, none, left⟩ := digits_append (List.cons_append ..).symm numeral.digit stop fits
  rw [List.cons_append]
  unfold readMagnitude
  dsimp only
  rw [if_neg (by simp [first]), if_neg (leading_append numeral stop)]
  rcases continues with ⟨fraction, rfl, finds⟩ | ⟨exponent, rfl, finds⟩
  · split
    next following =>
      cases left.symm.trans following
      rw [gathered, none]
      exact finds.extend _
    next following => cases left.symm.trans following
    next following => cases left.symm.trans following
    next point _ _ => exact absurd left (point fraction)
  · split
    next following => cases left.symm.trans following
    next =>
      rw [gathered, none]
      apply Finds.extend
      rw [left]
      exact finds
    next following => cases left.symm.trans following
    next _ mark _ => exact absurd left (mark exponent)

/-- The double of what a text shows is what the reader makes of the text. -/
theorem finds_written (negative : Bool) {token : Text} {shown : Decimal} (written : Written token shown)
    (fits : shown.digits ≤ significandBound) (stops : Stops rest) :
    Finds (readMagnitude negative (token ++ rest)) (Value.ofNumber · = .float (double negative shown)) rest := by
  cases written with
  | @point whole fraction numeral digit nonempty =>
    dsimp only at fits ⊢
    rw [Nat.ofDigitChars_append] at fits ⊢
    rw [List.append_assoc, List.cons_append]
    apply finds_magnitude numeral (Nat.le_trans (le_ofDigitChars fraction _) fits)
    refine .inl ⟨_, rfl, finds_fraction digit nonempty (isDigit_stop stops) fits ?_⟩
    rw [Int.zero_sub]
    exact finds_unscaled negative _ _ stops
  | @mark whole numeral exponent short =>
    rw [List.append_assoc, List.cons_append]
    apply finds_magnitude numeral fits
    have finds := finds_scaled negative (Nat.ofDigitChars 10 whole 0) 0 short stops
    rw [Int.zero_add] at finds
    exact .inr ⟨_, rfl, finds⟩
  | @pointMark whole fraction numeral digit nonempty exponent short =>
    dsimp only at fits ⊢
    rw [Nat.ofDigitChars_append] at fits ⊢
    rw [List.append_assoc, List.cons_append, List.append_assoc, List.cons_append]
    apply finds_magnitude numeral (Nat.le_trans (le_ofDigitChars fraction _) fits)
    refine .inl ⟨_, rfl, finds_fraction digit nonempty (by simp; decide) fits ?_⟩
    have place : exponent - fraction.length = 0 - fraction.length + exponent := by omega
    rw [place]
    exact finds_scaled negative _ _ short stops

end Magnitudes

section Floats
variable {rest : Text}

def exponentOf : Text → Int
  | '-' :: digits => -(Nat.ofDigitChars 10 digits 0 : Int)
  | digits => Nat.ofDigitChars 10 digits 0

/-- The number that the digits of a numeral form without their point, and the power of ten that goes with it. -/
def shown (token : Text) : Decimal :=
  let mantissa := token.takeWhile (· != 'e')
  let exponent := (token.dropWhile (· != 'e')).tail
  let fraction := (mantissa.dropWhile (· != '.')).tail
  ⟨Nat.ofDigitChars 10 (mantissa.filter isDigit) 0, exponentOf exponent - fraction.length⟩

private theorem exponentOf_digits {digits : Text} (digit : ∀ c ∈ digits, isDigit c = true) :
    exponentOf digits = Nat.ofDigitChars 10 digits 0 := by
  rw [exponentOf]
  rintro more rfl
  exact absurd (digit '-' (by simp)) (by decide)

private theorem exponentOf_integerText (exponent : Int) : exponentOf (Decimal.integerText exponent) = exponent := by
  have digits : Nat.ofDigitChars 10 (Nat.toDigits 10 exponent.natAbs) 0 = exponent.natAbs :=
    Nat.ofDigitChars_ten_toDigits
  unfold Decimal.integerText
  split
  next minus =>
    rw [exponentOf, digits]
    omega
  next plus =>
    rw [exponentOf_digits fun c member => isDigit_toDigits member, digits]
    omega

private theorem ne_mark_of_isDigit {c : Char} (digit : isDigit c = true) : (c != 'e') = true := by
  rw [bne_iff_ne]
  rintro rfl
  exact absurd digit (by decide)

private theorem ne_point_of_isDigit {c : Char} (digit : isDigit c = true) : (c != '.') = true := by
  rw [bne_iff_ne]
  rintro rfl
  exact absurd digit (by decide)

/-- A numeral is taken apart at its exponent mark and at its point. -/
theorem shown_parts {whole point exponent : Text} (digit : ∀ c ∈ whole, isDigit c = true)
    (unmarked : ∀ c ∈ point, (c != 'e') = true) (pointed : ∀ c ∈ point.head?, c = '.')
    (marked : ∀ c ∈ exponent.head?, c = 'e') :
    shown (whole ++ point ++ exponent) =
      ⟨Nat.ofDigitChars 10 (whole ++ point.filter isDigit) 0, exponentOf exponent.tail - point.tail.length⟩ := by
  have inside : ∀ c ∈ whole ++ point, (c != 'e') = true := by
    intro c member
    rcases List.mem_append.mp member with before | behind
    · exact ne_mark_of_isDigit (digit c before)
    · exact unmarked c behind
  have mark : ∀ c ∈ exponent.head?, (c != 'e') = false := by
    intro c head
    simp [marked c head]
  have dot : ∀ c ∈ point.head?, (c != '.') = false := by
    intro c head
    simp [pointed c head]
  have before : ∀ c ∈ whole, (c != '.') = true := fun c member => ne_point_of_isDigit (digit c member)
  have digits : whole.filter isDigit = whole := List.filter_eq_self.mpr digit
  simp only [shown, takeWhile_boundary inside mark, dropWhile_boundary inside mark, dropWhile_boundary before dot,
    List.filter_append, digits]

private theorem shown_fraction {whole fraction exponent : Text} (numeral : Numeral whole)
    (digit : ∀ c ∈ fraction, isDigit c = true) (marked : ∀ c ∈ exponent.head?, c = 'e') :
    shown (whole ++ '.' :: (fraction ++ exponent)) =
      ⟨Nat.ofDigitChars 10 (whole ++ fraction) 0, exponentOf exponent.tail - fraction.length⟩ := by
  have unmarked : ∀ c ∈ '.' :: fraction, (c != 'e') = true := by
    intro c member
    rcases List.mem_cons.mp member with rfl | inside
    · decide
    · exact ne_mark_of_isDigit (digit c inside)
  have parts := shown_parts numeral.digit unmarked (by simp) marked
  have digits : ('.' :: fraction).filter isDigit = fraction := by
    rw [List.filter_cons_of_neg (by decide)]
    exact List.filter_eq_self.mpr digit
  rw [digits, List.append_assoc, List.cons_append] at parts
  exact parts

/-- The parts of a numeral are those it is written from. -/
theorem shown_written {token : Text} {decimal : Decimal} (written : Written token decimal) : shown token = decimal := by
  cases written with
  | @point whole fraction numeral digit nonempty =>
    have parts := shown_fraction numeral digit (by simp : ∀ c ∈ ([] : Text).head?, c = 'e')
    rw [List.append_nil] at parts
    simpa [exponentOf, Nat.ofDigitChars] using parts
  | @mark whole numeral exponent short =>
    have parts := shown_parts numeral.digit (by simp : ∀ c ∈ ([] : Text), (c != 'e') = true) (by simp)
      (by simp : ∀ c ∈ ('e' :: Decimal.integerText exponent).head?, c = 'e')
    simpa [exponentOf_integerText] using parts
  | @pointMark whole fraction numeral digit nonempty exponent short =>
    have parts := shown_fraction numeral digit
      (by simp : ∀ c ∈ ('e' :: Decimal.integerText exponent).head?, c = 'e')
    rw [parts, List.tail_cons, exponentOf_integerText]

private theorem head_written {token : Text} {decimal : Decimal} (written : Written token decimal) :
    ∃ c more, token = c :: more ∧ isDigit c = true := by
  cases written with
  | point numeral | mark numeral | pointMark numeral =>
    obtain ⟨c, more, rfl⟩ := List.exists_cons_of_ne_nil numeral.nonempty
    exact ⟨c, _, rfl, numeral.digit c (by simp)⟩

theorem head_shortest {magnitude : Nat} (finite : magnitude < Binary64.infinite) :
    ∃ c more, Value.floatLayout.shortest magnitude = c :: more ∧ isDigit c = true := by
  obtain ⟨decimal, written, _⟩ := shows_shortest finite
  exact head_written written

private theorem readNumber_unsigned {c : Char} {more : Text} (digit : isDigit c = true) :
    Json.readNumber (c :: more) = readMagnitude false (c :: more) := by
  rw [Json.readNumber]
  intro rest same
  rw [(List.cons_eq_cons.mp same).1] at digit
  exact absurd digit (by decide)

/-- The double that the reader makes of the text of a double. -/
def reread (x : Binary64) : Binary64 := double x.isNegative (shown (Value.floatLayout.shortest x.magnitude))

theorem finds_floatText {x : Binary64} (finite : x.isFinite = true) (stops : Stops rest) :
    Finds (Json.readNumber (Value.floatText x ++ rest)) (Value.ofNumber · = .float (reread x)) rest := by
  have below : x.magnitude < Binary64.infinite := of_decide_eq_true finite
  obtain ⟨decimal, written, _, digits, _⟩ := shows_shortest below
  have finds := finds_written x.isNegative written (Nat.le_trans digits (by decide)) stops
  rw [← shown_written written] at finds
  obtain ⟨c, more, token, first⟩ := head_written written
  rw [floatText_finite finite, reread]
  cases sign : x.isNegative with
  | true =>
    rw [sign] at finds
    exact finds.extend _
  | false =>
    rw [sign] at finds
    rw [token, List.cons_append] at finds
    rw [token]
    change Finds (Json.readNumber (c :: (more ++ rest))) _ rest
    rw [readNumber_unsigned first]
    exact finds

end Floats

end ChefDsl.Proofs.JsonNumerals
