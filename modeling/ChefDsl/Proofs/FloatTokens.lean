import ChefDsl.Proofs.JsonNumerals
import ChefDsl.Proofs.LiteralWords
import ChefDsl.Proofs.ValueReading

/-! How finite doubles are printed. A double of middling size, and zero, stands as digits on both sides of a point. Any
other one has an exponent behind its digits, and there a single digit stands without a point, so such a double has no
fractional part. No decimal with fewer digits reads back as the double, so whether the digits are a single one can be
told without looking at the text. -/

namespace ChefDsl.Proofs.FloatTokens
open Decimal NumeralShape NumberReading SourceReader LiteralWords

section Statement

def Digits (text : Text) : Prop := text ≠ [] ∧ ∀ c ∈ text, isDigit c = true

def Digit (text : Text) : Prop := ∃ c, isDigit c = true ∧ text = [c]

/-- A text of this form, or one with a minus sign in front of it. -/
def Signed (form : Text → Prop) (token : Text) : Prop := ∃ number, form number ∧ (token = number ∨ token = '-' :: number)

def Plain (number : Text) : Prop :=
  ∃ whole fraction, Digits whole ∧ Digits fraction ∧ number = whole ++ '.' :: fraction

/-- A text of this form with an exponent behind it. -/
def Scaled (form : Text → Prop) (number : Text) : Prop :=
  ∃ mantissa exponent, form mantissa ∧ Signed Digits exponent ∧ number = mantissa ++ 'e' :: exponent

/-- A number with a fractional part, with or without an exponent. -/
def Fractional : Text → Prop := Signed fun number => Plain number ∨ Scaled Plain number

/-- A single digit with an exponent. -/
def Bare : Text → Prop := Signed (Scaled Digit)

def withoutZeros (digits : Text) : Text :=
  ((digits.dropWhile (· == '0')).reverse.dropWhile (· == '0')).reverse

/-- The digits of a number apart from its exponent, without the zeros at both ends. -/
def significant (token : Text) : Text := withoutZeros ((token.takeWhile (· != 'e')).filter isDigit)

/-- The least magnitude but zero that is printed without an exponent. -/
def tenThousandth : Nat := (Decimal.mk 1 (-4)).magnitude

/-- The least magnitude beyond those that are printed without an exponent. -/
def tenQuadrillion : Nat := (Decimal.mk 1 16).magnitude

def Middling (magnitude : Nat) : Prop := magnitude = 0 ∨ tenThousandth ≤ magnitude ∧ magnitude < tenQuadrillion

/-- A digit times a power of ten reads back as this magnitude. -/
def SingleDigit (magnitude : Nat) : Prop :=
  ∃ digit < 10, ∃ exponent, (Decimal.mk digit exponent).magnitude = magnitude

structure Prints (x : Binary64) (token : Text) : Prop where
  plain : Signed Plain token ↔ Middling x.magnitude
  fractional : Fractional token ↔ Middling x.magnitude ∨ ¬ SingleDigit x.magnitude
  bare : Bare token ↔ ¬ Middling x.magnitude ∧ SingleDigit x.magnitude
  sign : token.head? = some '-' ↔ x.isNegative = true
  shortest : ∀ (decimal : Decimal) (count : Nat), decimal.digits < Nat.pow 10 count →
    decimal.magnitude = x.magnitude → (significant token).length ≤ count
  reads : ∀ rest, Ends rest → readScalar (token ++ rest) = some (.float x, rest)

/-- The value holds the double, at any depth. -/
inductive Holds (x : Binary64) : Value → Prop where
  | alone : Holds x (.float x)
  | item {items : List Value} {item : Value} (member : item ∈ items) (inside : Holds x item) : Holds x (.array items)
  | entry {entries : List (String × Value)} {entry : String × Value} (member : entry ∈ entries)
      (inside : Holds x entry.2) : Holds x (.hash entries)

end Statement

section Forms
variable {text digits number token : Text}

private theorem positional_plain (digit : ∀ c ∈ digits, isDigit c = true) (point : Int) :
    Plain (positional digits point) := by
  have orZero (text : Text) (all : ∀ c ∈ text, isDigit c = true) : Digits (if text.isEmpty then ['0'] else text) := by
    split
    · exact ⟨by simp, numeral_zero.digit⟩
    next some => exact ⟨mt List.isEmpty_iff.mpr some, all⟩
  refine ⟨_, _, orZero _ ?_, orZero _ ?_, by rw [positional, List.append_assoc, List.singleton_append]⟩
  · intro c member
    rcases List.mem_append.mp member with inside | zero
    · exact digit c (List.mem_of_mem_take inside)
    · exact isDigit_zeros c zero
  · intro c member
    rcases List.mem_append.mp member with zero | inside
    · exact isDigit_zeros c zero
    · exact digit c (List.mem_of_mem_drop inside)

private theorem signed_integerText (n : Int) : Signed Digits (integerText n) := by
  have numeral := numeral_toDigits n.natAbs
  refine ⟨Nat.toDigits 10 n.natAbs, ⟨numeral.nonempty, numeral.digit⟩, ?_⟩
  unfold integerText
  split
  · exact .inr rfl
  · exact .inl rfl

private theorem scientific_single {first : Char} (digit : isDigit first = true) (point : Int) :
    Scaled Digit (scientific false [first] point) :=
  ⟨[first], integerText (point - 1), ⟨first, digit, rfl⟩, signed_integerText _, rfl⟩

private theorem plain_many {first second : Char} {more : Text}
    (digit : ∀ c ∈ first :: second :: more, isDigit c = true) :
    Plain ([first] ++ '.' :: second :: more) :=
  ⟨[first], second :: more, ⟨by simp, by simpa using digit first (by simp)⟩,
    ⟨by simp, fun c member => digit c (List.mem_cons_of_mem first member)⟩, rfl⟩

private theorem scientific_many_eq (first second : Char) (more : Text) (point : Int) :
    scientific false (first :: second :: more) point =
      ([first] ++ '.' :: second :: more) ++ 'e' :: integerText (point - 1) := by
  simp [scientific]

private theorem scientific_many {first second : Char} {more : Text}
    (digit : ∀ c ∈ first :: second :: more, isDigit c = true)
    (point : Int) : Scaled Plain (scientific false (first :: second :: more) point) :=
  ⟨_, _, plain_many digit, signed_integerText _, scientific_many_eq first second more point⟩

private theorem signed_of_sign {form : Text → Prop} (formed : form number) (negative : Bool) :
    Signed form ((if negative then ['-'] else []) ++ number) := by
  refine ⟨number, formed, ?_⟩
  cases negative with
  | true => exact .inr rfl
  | false => exact .inl rfl

private theorem notMem_of_signed {form : Text → Prop} {c : Char} (unsigned : c ≠ '-')
    (never : ∀ number, form number → c ∉ number) (signed : Signed form token) : c ∉ token := by
  obtain ⟨number, formed, rfl | rfl⟩ := signed
  · exact never _ formed
  · simpa [unsigned] using never number formed

private theorem mem_of_signed {form : Text → Prop} {c : Char} (always : ∀ number, form number → c ∈ number)
    (signed : Signed form token) : c ∈ token := by
  obtain ⟨number, formed, rfl | rfl⟩ := signed
  · exact always _ formed
  · exact List.mem_cons_of_mem _ (always number formed)

private theorem notMem_of_digits {c : Char} (other : isDigit c = false) (digits : Digits text) : c ∉ text := by
  intro member
  rw [digits.2 c member] at other
  contradiction

private theorem mark_notMem_of_plain (plain : Plain number) : 'e' ∉ number := by
  obtain ⟨whole, fraction, before, behind, rfl⟩ := plain
  have other : isDigit 'e' = false := by decide
  simp [notMem_of_digits other before, notMem_of_digits other behind]

private theorem mark_mem_of_scaled {form : Text → Prop} (scaled : Scaled form number) : 'e' ∈ number := by
  obtain ⟨mantissa, exponent, _, _, rfl⟩ := scaled
  simp

private theorem point_mem_of_plain (plain : Plain number) : '.' ∈ number := by
  obtain ⟨whole, fraction, _, _, rfl⟩ := plain
  simp

private theorem point_mem_of_fractional (fractional : Fractional token) : '.' ∈ token := by
  refine mem_of_signed ?_ fractional
  rintro number (plain | ⟨mantissa, exponent, plain, _, rfl⟩)
  · exact point_mem_of_plain plain
  · exact List.mem_append_left _ (point_mem_of_plain plain)

private theorem point_notMem_of_bare (bare : Bare token) : '.' ∉ token := by
  refine notMem_of_signed (by decide) ?_ bare
  rintro number ⟨mantissa, exponent, ⟨digit, is, rfl⟩, signed, rfl⟩
  have other : isDigit '.' = false := by decide
  have after : '.' ∉ exponent := notMem_of_signed (by decide) (fun _ => notMem_of_digits other) signed
  have before : '.' ∉ [digit] := notMem_of_digits other ⟨by simp, by simpa using is⟩
  simpa [after] using before

private theorem significant_number (unmarked : 'e' ∉ number) {exponent : Text}
    (marked : ∀ c ∈ exponent.head?, c = 'e') :
    significant (number ++ exponent) = withoutZeros (number.filter isDigit) := by
  have inside : ∀ c ∈ number, (c != 'e') = true := by
    intro c member
    apply bne_iff_ne.mpr
    rintro rfl
    exact unmarked member
  have stop : ∀ c ∈ exponent.head?, (c != 'e') = false := by
    intro c head
    simp [marked c head]
  rw [significant, TextLines.takeWhile_boundary inside stop]

end Forms

section Digits

/-- Digits with no zero at either end. -/
structure Compact (digits : Text) : Prop where
  digit : ∀ c ∈ digits, isDigit c = true
  nonempty : digits ≠ []
  first : digits.head? ≠ some '0'
  last : digits.getLast? ≠ some '0'

variable {digits : Text} (compact : Compact digits)
include compact

private theorem withoutZeros_between (before behind : Nat) :
    withoutZeros (List.replicate before '0' ++ (digits ++ List.replicate behind '0')) = digits := by
  have zero (count : Nat) : ∀ c ∈ List.replicate count '0', (c == '0') = true := by simp
  have leading : ∀ c ∈ (digits ++ List.replicate behind '0').head?, (c == '0') = false := by
    intro c head
    rw [List.head?_append, List.head?_eq_some_head compact.nonempty, Option.some_or,
      ← List.head?_eq_some_head compact.nonempty] at head
    exact beq_eq_false_iff_ne.mpr fun same => compact.first (same ▸ head)
  have trailing : ∀ c ∈ digits.reverse.head?, (c == '0') = false := by
    intro c head
    rw [List.head?_reverse] at head
    exact beq_eq_false_iff_ne.mpr fun same => compact.last (same ▸ head)
  rw [withoutZeros, TextLines.dropWhile_boundary (zero before) leading, List.reverse_append, List.reverse_replicate,
    TextLines.dropWhile_boundary (zero behind) trailing, List.reverse_reverse]

private theorem significant_plain {whole fraction : Text} (first : ∀ c ∈ whole, isDigit c = true)
    (second : ∀ c ∈ fraction, isDigit c = true) (before behind : Nat)
    (split : whole ++ fraction = List.replicate before '0' ++ (digits ++ List.replicate behind '0')) :
    withoutZeros ((whole ++ '.' :: fraction).filter isDigit) = digits := by
  rw [List.filter_append, List.filter_cons_of_neg (by decide), List.filter_eq_self.mpr first,
    List.filter_eq_self.mpr second, split]
  exact withoutZeros_between compact before behind

private theorem significant_positional (point : Int) : significant (positional digits point) = digits := by
  have whole := significant_number (mark_notMem_of_plain (positional_plain compact.digit point))
    (by simp : ∀ c ∈ ([] : Text).head?, c = 'e')
  rw [List.append_nil] at whole
  rw [whole]
  by_cases before : point ≤ 0
  · have zero : ∀ c ∈ zeros (-point) ++ digits, isDigit c = true :=
      List.forall_mem_append.mpr ⟨isDigit_zeros, compact.digit⟩
    rw [positional_before compact.nonempty before]
    apply significant_plain compact numeral_zero.digit zero ((-point).toNat + 1) 0
    simp [zeros, List.replicate_succ]
  by_cases behind : digits.length ≤ point
  · have zero : ∀ c ∈ digits ++ zeros (point - digits.length), isDigit c = true :=
      List.forall_mem_append.mpr ⟨compact.digit, isDigit_zeros⟩
    rw [positional_behind compact.nonempty behind]
    apply significant_plain compact zero numeral_zero.digit 0 ((point - digits.length).toNat + 1)
    simp [zeros, List.replicate_succ']
  · obtain ⟨place, rfl⟩ : ∃ place : Nat, point = place := ⟨point.toNat, by omega⟩
    rw [positional_between (by omega) (by omega)]
    apply significant_plain compact _ _ 0 0
    · simp
    · exact fun c member => compact.digit c (List.mem_of_mem_take member)
    · exact fun c member => compact.digit c (List.mem_of_mem_drop member)

private theorem significant_scientific (point : Int) : significant (scientific false digits point) = digits := by
  have mark : isDigit 'e' = false := by decide
  match digits, compact with
  | [], compact => exact absurd rfl compact.nonempty
  | [first], compact =>
    have mantissa : Digits [first] := ⟨compact.nonempty, compact.digit⟩
    have whole := withoutZeros_between compact 0 0
    simp only [List.replicate_zero, List.nil_append, List.append_nil] at whole
    have text : scientific false [first] point = [first] ++ 'e' :: integerText (point - 1) := rfl
    rw [text, significant_number (notMem_of_digits mark mantissa) (by simp), List.filter_eq_self.mpr mantissa.2, whole]
  | first :: second :: more, compact =>
    have leading : ∀ c ∈ [first], isDigit c = true := by simpa using compact.digit first (by simp)
    have following : ∀ c ∈ second :: more, isDigit c = true :=
      fun c member => compact.digit c (List.mem_cons_of_mem first member)
    rw [scientific_many_eq, significant_number (mark_notMem_of_plain (plain_many compact.digit)) (by simp)]
    apply significant_plain compact leading following 0 0
    simp

end Digits

section Powers

private theorem toDigits_power (count : Nat) :
    Nat.toDigits 10 (Nat.pow 10 count) = '1' :: List.replicate count '0' := by
  induction count with
  | zero => rfl
  | succ count ih =>
    have step : Nat.pow 10 (count + 1) = 10 * Nat.pow 10 count := Nat.pow_succ' ..
    have positive : 0 < Nat.pow 10 count := RoundingBounds.power_pos count
    rw [step, Nat.toDigits_of_base_le (by decide) (by omega), Nat.mul_div_cancel_left _ (by decide),
      Nat.mul_mod_right, ih, List.replicate_succ']
    rfl

/-- A power of ten has one significant digit. -/
theorem length_significand_le {decimal : Decimal} {count : Nat} (few : decimal.digits ≤ Nat.pow 10 count)
    (some : 0 < count) : decimal.significand.1.length ≤ count := by
  have stripped (digits : Text) : (digits.reverse.dropWhile (· == '0')).reverse.length ≤ digits.length := by
    have short : (digits.reverse.dropWhile (· == '0')).length ≤ digits.reverse.length :=
      (List.dropWhile_suffix _).length_le
    rwa [List.length_reverse] at short ⊢
  rcases Nat.lt_or_eq_of_le few with fewer | power
  · calc decimal.significand.1.length ≤ (Nat.toDigits 10 decimal.digits).length := stripped _
      _ ≤ count := (Nat.length_toDigits_le_iff (by decide) some).mpr fewer
  · have zero : ∀ c ∈ List.replicate count '0', (c == '0') = true := by simp
    have one : decimal.significand.1 = ['1'] := by
      rw [Decimal.significand, power, toDigits_power, List.reverse_cons, List.reverse_replicate,
        TextLines.dropWhile_boundary zero (by simp)]
      rfl
    rw [one]
    exact some

private theorem exists_compact {decimal : Decimal} (nonzero : decimal.digits ≠ 0) :
    ∃ first following point, Significant decimal first following point ∧ Compact (first :: following) := by
  obtain ⟨first, following, point, significant⟩ := exists_significant nonzero
  refine ⟨first, following, point, significant, significant.digit, by simp, by simpa using significant.leading, ?_⟩
  have stripped : ((Nat.toDigits 10 decimal.digits).reverse.dropWhile (· == '0')).reverse = first :: following :=
    congrArg Prod.fst significant.significand
  rw [← stripped, List.getLast?_reverse]
  intro zero
  have stops := List.head?_dropWhile_not (· == '0') (Nat.toDigits 10 decimal.digits).reverse
  rw [zero] at stops
  simp at stops

section Order
variable {decimal : Decimal} {power : Int}

private theorem magnitude_power (power : Int) : (Decimal.mk 1 power).magnitude =
    Binary64.roundRatio (Nat.pow 10 power.toNat) (Nat.pow 10 (-power).toNat) := by
  rw [FloatRounding.magnitude_ratio _ power.toNat (-power).toNat (by simp only; omega), Nat.one_mul]

private theorem magnitude_split (decimal : Decimal) : decimal.magnitude =
    Binary64.roundRatio (decimal.digits * Nat.pow 10 decimal.exponent.toNat) (Nat.pow 10 (-decimal.exponent).toNat) :=
  FloatRounding.magnitude_ratio _ _ _ (by omega)

private theorem power_le_magnitude (nonzero : decimal.digits ≠ 0)
    (leads : power < (Nat.toDigits 10 decimal.digits).length + decimal.exponent) :
    (Decimal.mk 1 power).magnitude ≤ decimal.magnitude := by
  have least : Nat.pow 10 ((Nat.toDigits 10 decimal.digits).length - 1) ≤ decimal.digits := by
    by_cases more : 0 < (Nat.toDigits 10 decimal.digits).length - 1
    · have long : ¬ (Nat.toDigits 10 decimal.digits).length ≤ (Nat.toDigits 10 decimal.digits).length - 1 := by omega
      rwa [Nat.length_toDigits_le_iff (by decide) more, Nat.not_lt] at long
    · rw [Nat.eq_zero_of_not_pos more]
      exact Nat.pos_of_ne_zero nonzero
  generalize (Nat.toDigits 10 decimal.digits).length = length at *
  have room : power.toNat + (-decimal.exponent).toNat ≤
      (length - 1) + decimal.exponent.toNat + (-power).toNat := by
    omega
  rw [magnitude_power, magnitude_split]
  apply RoundingBounds.roundRatio_mono (RoundingBounds.power_pos _) (RoundingBounds.power_pos _)
  calc Nat.pow 10 power.toNat * Nat.pow 10 (-decimal.exponent).toNat
      = Nat.pow 10 (power.toNat + (-decimal.exponent).toNat) := (Nat.pow_add ..).symm
    _ ≤ Nat.pow 10 ((length - 1) + decimal.exponent.toNat + (-power).toNat) := Nat.pow_le_pow_right (by decide) room
    _ = Nat.pow 10 (length - 1) * Nat.pow 10 decimal.exponent.toNat * Nat.pow 10 (-power).toNat := by
      simp only [Nat.pow_eq, Nat.pow_add]
    _ ≤ _ := Nat.mul_le_mul_right _ (Nat.mul_le_mul_right _ least)

private theorem magnitude_le_power (leads : (Nat.toDigits 10 decimal.digits).length + decimal.exponent ≤ power) :
    decimal.magnitude ≤ (Decimal.mk 1 power).magnitude := by
  have most : decimal.digits < Nat.pow 10 (Nat.toDigits 10 decimal.digits).length :=
    (Nat.length_toDigits_le_iff (by decide) (List.length_pos_iff.mpr Nat.toDigits_ne_nil)).mp (Nat.le_refl _)
  generalize (Nat.toDigits 10 decimal.digits).length = length at *
  have room : length + decimal.exponent.toNat + (-power).toNat ≤ power.toNat + (-decimal.exponent).toNat := by
    omega
  rw [magnitude_power, magnitude_split]
  apply RoundingBounds.roundRatio_mono (RoundingBounds.power_pos _) (RoundingBounds.power_pos _)
  calc decimal.digits * Nat.pow 10 decimal.exponent.toNat * Nat.pow 10 (-power).toNat
      ≤ Nat.pow 10 length * Nat.pow 10 decimal.exponent.toNat * Nat.pow 10 (-power).toNat :=
        Nat.mul_le_mul_right _ (Nat.mul_le_mul_right _ most.le)
    _ = Nat.pow 10 (length + decimal.exponent.toNat + (-power).toNat) := by simp only [Nat.pow_eq, Nat.pow_add]
    _ ≤ Nat.pow 10 (power.toNat + (-decimal.exponent).toNat) := Nat.pow_le_pow_right (by decide) room
    _ = _ := Nat.pow_add ..

end Order

end Powers

section Numbers
variable {magnitude : Nat} {first : Char} {following : Text} {point : Int}

private theorem shortest_tenThousandth :
    (Decimal.shortest .up tenThousandth).significand = (['1'], -3) := by decide +kernel

private theorem shortest_tenQuadrillion :
    (Decimal.shortest .up tenQuadrillion).significand = (['1'], 17) := by decide +kernel

private theorem digits_shortest (positive : 0 < magnitude) (finite : magnitude < Binary64.infinite) :
    (Decimal.shortest .up magnitude).digits ≠ 0 := by
  apply FloatRounding.digits_of_magnitude
  rwa [FloatRounding.magnitude_shortest .up finite]

/-- A power of ten is printed as one itself, so what rounds to a bound has its point where the bound has it. -/
theorem between_bounds_iff (positive : 0 < magnitude) (finite : magnitude < Binary64.infinite)
    (significant : Significant (Decimal.shortest .up magnitude) first following point) :
    -4 ≤ point - 1 ∧ point - 1 < 16 ↔ tenThousandth ≤ magnitude ∧ magnitude < tenQuadrillion := by
  have reads := FloatRounding.magnitude_shortest .up finite
  have place := significant.place
  have above (power : Int) (leads : power < point) : (Decimal.mk 1 power).magnitude ≤ magnitude := by
    rw [← reads]
    exact power_le_magnitude (digits_shortest positive finite) (by omega)
  have below (power : Int) (leads : point ≤ power) : magnitude ≤ (Decimal.mk 1 power).magnitude := by
    rw [← reads]
    exact magnitude_le_power (by omega)
  have start (same : magnitude = tenThousandth) : point = -3 := by
    have value := significant.significand
    rw [same, shortest_tenThousandth] at value
    exact (Prod.mk.inj value).2.symm
  have stop (same : magnitude = tenQuadrillion) : point = 17 := by
    have value := significant.significand
    rw [same, shortest_tenQuadrillion] at value
    exact (Prod.mk.inj value).2.symm
  constructor
  · intro ⟨low, high⟩
    refine ⟨above (-4) (by omega), Nat.lt_of_le_of_ne (below 16 (by omega)) fun same => ?_⟩
    have beyond := stop same
    omega
  · intro ⟨low, high⟩
    refine ⟨?_, ?_⟩
    · by_contra less
      have short := start (Nat.le_antisymm (below (-4) (by omega)) low)
      omega
    · by_contra more
      exact Nat.not_lt.mpr (above 16 (by omega)) high

private theorem singleDigit_iff (finite : magnitude < Binary64.infinite)
    (significant : Significant (Decimal.shortest .up magnitude) first following point) :
    SingleDigit magnitude ↔ following = [] := by
  constructor
  · intro ⟨digit, small, exponent, reads⟩
    have few : (Decimal.shortest .up magnitude).digits ≤ Nat.pow 10 1 := by
      rw [← reads] at finite ⊢
      exact ShortestDigits.shortest_fewest .up finite small
    have length := length_significand_le few (by decide)
    rw [significant.significand] at length
    exact List.eq_nil_of_length_eq_zero (Nat.le_zero.mp (Nat.le_of_succ_le_succ length))
  · rintro rfl
    have small := ofDigitChars_lt significant.digit 0
    exact ⟨_, by simpa using small, _, significant.magnitude.trans (FloatRounding.magnitude_shortest .up finite)⟩

/-- The digits stand positionally or with an exponent, as the bounds have it. -/
theorem shortest_text (positive : 0 < magnitude) (finite : magnitude < Binary64.infinite)
    (significant : Significant (Decimal.shortest .up magnitude) first following point) :
    Middling magnitude ∧ Value.floatLayout.shortest magnitude = positional (first :: following) point ∨
      ¬ Middling magnitude ∧ Value.floatLayout.shortest magnitude = scientific false (first :: following) point := by
  have middling : Middling magnitude ↔ -4 ≤ point - 1 ∧ point - 1 < 16 := by
    rw [between_bounds_iff positive finite significant, Middling, or_iff_right (Nat.ne_of_gt positive)]
  have text : Value.floatLayout.shortest magnitude = if -4 ≤ point - 1 ∧ point - 1 < 16 then
      positional (first :: following) point else scientific false (first :: following) point := by
    rw [Layout.shortest, Value.floatLayout, Decimal.text, significant.significand]
  rw [text, middling]
  split
  next inside => exact .inl ⟨inside, rfl⟩
  next outside => exact .inr ⟨outside, rfl⟩

private theorem number_forms (finite : magnitude < Binary64.infinite) :
    Middling magnitude ∧ Plain (Value.floatLayout.shortest magnitude) ∨
      ¬ Middling magnitude ∧ ¬ SingleDigit magnitude ∧ Scaled Plain (Value.floatLayout.shortest magnitude) ∨
      ¬ Middling magnitude ∧ SingleDigit magnitude ∧ Scaled Digit (Value.floatLayout.shortest magnitude) := by
  rcases Nat.eq_zero_or_pos magnitude with rfl | positive
  · have text : Value.floatLayout.shortest 0 = ['0'] ++ '.' :: ['0'] := by decide
    exact .inl ⟨.inl rfl, ['0'], ['0'], ⟨by simp, numeral_zero.digit⟩, ⟨by simp, numeral_zero.digit⟩, text⟩
  obtain ⟨first, following, point, significant, _⟩ := exists_compact (digits_shortest positive finite)
  have single := singleDigit_iff finite significant
  rcases shortest_text positive finite significant with ⟨middling, text⟩ | ⟨outside, text⟩
  · rw [text]
    exact .inl ⟨middling, positional_plain significant.digit point⟩
  · rw [text, single]
    cases following with
    | nil => exact .inr (.inr ⟨outside, rfl, scientific_single (significant.digit first (by simp)) point⟩)
    | cons second more => exact .inr (.inl ⟨outside, by simp, scientific_many significant.digit point⟩)

/-- The text has the digits of the shortest decimal, wherever its point and its zeros stand. -/
theorem significant_shortest (positive : 0 < magnitude) (finite : magnitude < Binary64.infinite) :
    significant (Value.floatLayout.shortest magnitude) = (Decimal.shortest .up magnitude).significand.1 := by
  obtain ⟨first, following, point, digits, compact⟩ := exists_compact (digits_shortest positive finite)
  rw [digits.significand]
  rcases shortest_text positive finite digits with ⟨_, text⟩ | ⟨_, text⟩
  · rw [text, significant_positional compact]
  · rw [text, significant_scientific compact]

end Numbers

section Tokens
variable {x : Binary64}

private theorem significant_sign (negative : Bool) (number : Text) :
    significant ((if negative then ['-'] else []) ++ number) = significant number := by
  cases negative with
  | true => rfl
  | false => rfl

private theorem length_significant_le {decimal : Decimal} {count : Nat} (finite : decimal.magnitude < Binary64.infinite)
    (few : decimal.digits < Nat.pow 10 count) :
    (significant (Value.floatLayout.shortest decimal.magnitude)).length ≤ count := by
  rcases Nat.eq_zero_or_pos decimal.magnitude with zero | positive
  · have none : significant (Value.floatLayout.shortest 0) = [] := by decide
    rw [zero, none]
    exact Nat.zero_le count
  · have some : 0 < count := by
      by_contra zero
      rw [Nat.eq_zero_of_not_pos zero] at few
      exact FloatRounding.digits_of_magnitude positive (Nat.lt_one_iff.mp few)
    rw [significant_shortest positive finite]
    exact length_significand_le (ShortestDigits.shortest_fewest .up finite few) some

private theorem head_floatText (finite : x.isFinite = true) :
    (Value.floatText x).head? = some '-' ↔ x.isNegative = true := by
  obtain ⟨c, more, number, digit⟩ := JsonNumerals.head_shortest (of_decide_eq_true finite)
  have unsigned : c ≠ '-' := by
    rintro rfl
    exact absurd digit (by decide)
  rw [floatText_finite finite, number]
  cases x.isNegative with
  | true => exact iff_of_true rfl rfl
  | false => exact iff_of_false (by simpa using unsigned) Bool.false_ne_true

/-- The forms exclude each other by the marks that stand in them. -/
theorem forms_floatText (finite : x.isFinite = true) :
    (Signed Plain (Value.floatText x) ↔ Middling x.magnitude) ∧
      (Fractional (Value.floatText x) ↔ Middling x.magnitude ∨ ¬ SingleDigit x.magnitude) ∧
      (Bare (Value.floatText x) ↔ ¬ Middling x.magnitude ∧ SingleDigit x.magnitude) := by
  have unmarked (plain : Signed Plain (Value.floatText x)) : 'e' ∉ Value.floatText x :=
    notMem_of_signed (by decide) (fun _ => mark_notMem_of_plain) plain
  have marked {form : Text → Prop} (scaled : Signed (Scaled form) (Value.floatText x)) : 'e' ∈ Value.floatText x :=
    mem_of_signed (fun _ => mark_mem_of_scaled) scaled
  have signed {form : Text → Prop} (formed : form (Value.floatLayout.shortest x.magnitude)) :
      Signed form (Value.floatText x) := by
    rw [floatText_finite finite]
    exact signed_of_sign formed x.isNegative
  rcases number_forms (of_decide_eq_true finite) with
    ⟨middling, plain⟩ | ⟨outside, several, scaled⟩ | ⟨outside, single, scaled⟩
  · have fractional : Fractional (Value.floatText x) := signed (.inl plain)
    exact ⟨iff_of_true (signed plain) middling, iff_of_true fractional (.inl middling),
      iff_of_false (fun bare => point_notMem_of_bare bare (point_mem_of_fractional fractional)) (·.1 middling)⟩
  · have fractional : Fractional (Value.floatText x) := signed (.inr scaled)
    exact ⟨iff_of_false (fun plain => unmarked plain (marked (signed scaled))) outside,
      iff_of_true fractional (.inr several),
      iff_of_false (fun bare => point_notMem_of_bare bare (point_mem_of_fractional fractional)) (several ·.2)⟩
  · have bare : Bare (Value.floatText x) := signed scaled
    exact ⟨iff_of_false (fun plain => unmarked plain (marked bare)) outside,
      iff_of_false (fun fractional => point_notMem_of_bare bare (point_mem_of_fractional fractional))
        (not_or.mpr ⟨outside, not_not.mpr single⟩),
      iff_of_true bare ⟨outside, single⟩⟩

private theorem prints_floatText (finite : x.isFinite = true) : Prints x (Value.floatText x) := by
  have below : x.magnitude < Binary64.infinite := of_decide_eq_true finite
  have defined : x.isNaN = false := decide_eq_false (Nat.not_lt.mpr below.le)
  have reads (rest : Text) (ends : Ends rest) :
      readScalar (Value.floatText x ++ rest) = some (.float x, rest) := by
    rw [ValueReading.readScalar_floatText x ends, defined]
    rfl
  have shortest (decimal : Decimal) (count : Nat) (few : decimal.digits < Nat.pow 10 count)
      (same : decimal.magnitude = x.magnitude) : (significant (Value.floatText x)).length ≤ count := by
    rw [floatText_finite finite, significant_sign, ← same]
    exact length_significant_le (same ▸ below) few
  obtain ⟨plain, fractional, bare⟩ := forms_floatText finite
  exact ⟨plain, fractional, bare, head_floatText finite, shortest, reads⟩

private theorem format_float (x : Binary64) (level : Level) : (Value.float x).format level = Value.floatText x :=
  ValueLayout.format_eq (.float x) level

private theorem mem_wordsOf {value : Value} (holds : Holds x value) : Value.floatText x ∈ wordsOf value := by
  induction holds with
  | alone => exact List.mem_singleton.mpr rfl
  | item member inside ih =>
    rw [wordsOf, itemWords_eq]
    exact List.mem_flatMap.mpr ⟨_, member, ih⟩
  | entry member inside ih =>
    rw [wordsOf, entryWords_eq]
    exact List.mem_flatMap.mpr ⟨_, member, List.mem_cons_of_mem _ ih⟩

end Tokens

/-- A double prints alike alone and as a leaf of a value. It has a fractional part unless it is outside the middling
sizes and a digit times a power of ten reads back as it. -/
theorem floats_printed {x : Binary64} {value : Value} (holds : Holds x value) (finite : x.isFinite = true)
    (level : Level) : words (value.format level) = wordsOf value ∧ Value.floatText x ∈ wordsOf value ∧
      (Value.float x).format level = Value.floatText x ∧ Prints x (Value.floatText x) :=
  ⟨words_format value level, mem_wordsOf holds, format_float x level, prints_floatText finite⟩

/-- The greatest negative double. -/
def justBelowZero : Binary64 := ⟨0x8000000000000001⟩

/-- A double of a single digit behind other literals, under a key that reads like a double itself. -/
def leaves : Value := .array [.hash [("1.5", .array [.nil, .integer 7, .float justBelowZero])], .string "0.5"]

theorem floats_printed_leaves :
    Holds justBelowZero leaves ∧ justBelowZero.isFinite = true ∧
      words (leaves.format ⟨1⟩) = ["=>".toList, "nil".toList, "7".toList, "-5e-324".toList] ∧
      Value.floatText justBelowZero = "-5e-324".toList ∧ Prints justBelowZero (Value.floatText justBelowZero) := by
  have holds : Holds justBelowZero leaves :=
    .item (List.mem_cons_self ..) (.entry (List.mem_singleton.mpr rfl) (.item (by simp) .alone))
  have finite : justBelowZero.isFinite = true := by decide
  have token : Value.floatText justBelowZero = "-5e-324".toList := by decide +kernel
  obtain ⟨text, _, _, prints⟩ := floats_printed holds finite ⟨1⟩
  have literals : wordsOf leaves = ["=>".toList, "nil".toList, "7".toList, Value.floatText justBelowZero] := rfl
  rw [literals, token] at text
  exact ⟨holds, finite, text, token, prints⟩

/-- The least double beyond the middling sizes, ten to the sixteenth. -/
def large : Binary64 := ⟨0x4341C37937E08000⟩

theorem fraction_missing :
    large.isFinite = true ∧ large.magnitude = tenQuadrillion ∧
      (Value.float large).format ⟨0⟩ = "1e16".toList ∧ ¬ Fractional ((Value.float large).format ⟨0⟩) ∧
      words ((Value.hash [("weights", .array [.float large])]).format ⟨0⟩) = ["=>".toList, "1e16".toList] ∧
      ¬ ∀ x : Binary64, x.isFinite = true → Fractional (Value.floatText x) := by
  have finite : large.isFinite = true := by decide
  have token : Value.floatText large = "1e16".toList := by decide +kernel
  have nested : wordsOf (.hash [("weights", .array [.float large])]) = ["=>".toList, Value.floatText large] := rfl
  have pointless : '.' ∉ "1e16".toList := by decide
  have missing : ¬ Fractional (Value.floatText large) := by
    intro fractional
    rw [token] at fractional
    exact pointless (point_mem_of_fractional fractional)
  refine ⟨finite, by decide +kernel, (format_float large _).trans token, ?_, ?_, fun all => missing (all large finite)⟩
  · rwa [format_float]
  · rw [words_format, nested, token]

end ChefDsl.Proofs.FloatTokens
