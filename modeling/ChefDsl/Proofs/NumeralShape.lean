import ChefDsl.Proofs.ShortestDigits
import ChefDsl.Value.Layout

/-! The forms in which numbers are written. A whole number is its digits without a leading zero. A double has digits on
both sides of a point, or an exponent behind one digit or behind such digits with a point. What the digits and the
exponent say is a decimal that rounds to the double. It need not be the shortest one, because a zero is written behind
a point that nothing else would follow. -/

namespace ChefDsl.Proofs.NumeralShape
open Decimal

theorem isDigit_eq (c : Char) : isDigit c = c.isDigit := by
  simp [isDigit, Char.isDigit, Char.le_def, UInt32.le_iff_toNat_le]

/-- Digits of a number in decimal notation: at least one, and no leading zero that could be left out. -/
structure Numeral (digits : Text) : Prop where
  digit : ∀ c ∈ digits, isDigit c = true
  nonempty : digits ≠ []
  leading : digits.head? = some '0' → digits = ['0']

section Digits

theorem isDigit_toDigits {n : Nat} {c : Char} (member : c ∈ Nat.toDigits 10 n) : isDigit c = true := by
  rw [isDigit_eq]
  exact Nat.isDigit_of_mem_toDigits (by decide) (by decide) member

private theorem head_toDigits {n : Nat} (positive : 0 < n) : (Nat.toDigits 10 n).head? ≠ some '0' := by
  rw [Nat.toDigits_eq_if (by decide)]
  split
  next small =>
    have nonzero : ∀ digit < 10, 0 < digit → Nat.digitChar digit ≠ '0' := by decide
    simpa using nonzero n small positive
  next large =>
    have ih := head_toDigits (n := n / 10) (by omega)
    obtain ⟨first, more, digits⟩ := List.exists_cons_of_ne_nil (Nat.toDigits_ne_nil (n := n / 10) (b := 10))
    rw [digits] at ih ⊢
    simpa using ih
termination_by n
decreasing_by omega

theorem numeral_toDigits (n : Nat) : Numeral (Nat.toDigits 10 n) := by
  refine ⟨fun c member => isDigit_toDigits member, Nat.toDigits_ne_nil, ?_⟩
  intro zero
  cases n with
  | zero => exact Nat.toDigits_zero 10
  | succ n => exact absurd zero (head_toDigits (Nat.succ_pos n))

private theorem numeral_of_leading {first : Char} {digits : Text} (digit : ∀ c ∈ first :: digits, isDigit c = true)
    (leading : first ≠ '0') : Numeral (first :: digits) :=
  ⟨digit, by simp, fun zero => absurd (by simpa using zero) leading⟩

theorem numeral_zero : Numeral ['0'] :=
  ⟨fun c member => List.mem_singleton.mp member ▸ rfl, by simp, fun _ => rfl⟩

theorem isDigit_zeros {count : Int} : ∀ c ∈ zeros count, isDigit c = true := by
  intro c member
  rw [List.eq_of_mem_replicate member]
  decide

private theorem ofDigitChars_zeros (count : Int) (digits : Text) :
    Nat.ofDigitChars 10 (zeros count ++ digits) 0 = Nat.ofDigitChars 10 digits 0 := by
  rw [zeros, Nat.ofDigitChars_append, Nat.ofDigitChars_replicate_zero, Nat.mul_zero]

private theorem ofDigitChars_zeros_behind (digits : Text) (count : Int) :
    Nat.ofDigitChars 10 (digits ++ zeros count ++ ['0']) 0 =
      Nat.ofDigitChars 10 digits 0 * Nat.pow 10 (count.toNat + 1) := by
  rw [zeros, List.append_assoc, ← List.replicate_succ', Nat.ofDigitChars_append, Nat.ofDigitChars_replicate_zero,
    Nat.mul_comm, Nat.pow_eq]

theorem ofDigitChars_lt {digits : Text} (digit : ∀ c ∈ digits, isDigit c = true) (start : Nat) :
    Nat.ofDigitChars 10 digits start < (start + 1) * Nat.pow 10 digits.length := by
  induction digits generalizing start with
  | nil => simp [Nat.ofDigitChars]
  | cons c rest ih =>
    have small : c.toNat - '0'.toNat ≤ 9 := by
      have bounds := digit c (by simp)
      simp only [isDigit, Bool.and_eq_true, decide_eq_true_eq, Char.le_def, UInt32.le_iff_toNat_le] at bounds
      have last : '9'.val.toNat = 57 := rfl
      have start : '0'.toNat = 48 := rfl
      have code : c.toNat = c.val.toNat := rfl
      omega
    have tail := ih (fun other inside => digit other (by simp [inside])) (10 * start + (c.toNat - '0'.toNat))
    have power : Nat.pow 10 (rest.length + 1) = 10 * Nat.pow 10 rest.length := Nat.pow_succ' ..
    rw [Nat.ofDigitChars_cons, List.length_cons, power]
    calc _ < (10 * start + (c.toNat - '0'.toNat) + 1) * Nat.pow 10 rest.length := tail
      _ ≤ (start + 1) * 10 * Nat.pow 10 rest.length := Nat.mul_le_mul_right _ (by omega)
      _ = _ := Nat.mul_assoc ..

end Digits

section Significands

private theorem zeros_behind (digits : Text) :
    ∃ count, digits = (digits.reverse.dropWhile (· == '0')).reverse ++ List.replicate count '0' := by
  refine ⟨(digits.reverse.takeWhile (· == '0')).length, ?_⟩
  have same : digits.reverse.takeWhile (· == '0') =
      List.replicate (digits.reverse.takeWhile (· == '0')).length '0' := by
    apply List.eq_replicate_of_mem
    intro c member
    simpa using List.all_eq_true.mp List.all_takeWhile c member
  apply List.reverse_inj.mp
  rw [List.reverse_append, List.reverse_reverse, List.reverse_replicate, ← same, List.takeWhile_append_dropWhile]

/-- The significant digits of a decimal that is not zero, and where its point stands. -/
structure Significant (decimal : Decimal) (first : Char) (following : Text) (point : Int) : Prop where
  significand : decimal.significand = (first :: following, point)
  digit : ∀ c ∈ first :: following, isDigit c = true
  leading : first ≠ '0'
  place : point = (Nat.toDigits 10 decimal.digits).length + decimal.exponent
  length : (first :: following).length ≤ (Nat.toDigits 10 decimal.digits).length
  digits : Nat.ofDigitChars 10 (first :: following) 0 ≤ decimal.digits
  magnitude : (Decimal.mk (Nat.ofDigitChars 10 (first :: following) 0) (point - (following.length + 1))).magnitude =
    decimal.magnitude

theorem exists_significant {decimal : Decimal} (nonzero : decimal.digits ≠ 0) :
    ∃ first following point, Significant decimal first following point := by
  obtain ⟨count, split⟩ := zeros_behind (Nat.toDigits 10 decimal.digits)
  have leading := head_toDigits (Nat.pos_of_ne_zero nonzero)
  generalize stripped : ((Nat.toDigits 10 decimal.digits).reverse.dropWhile (· == '0')).reverse = significant at split
  cases significant with
  | nil =>
    -- Nothing but zeros would be left, and a number other than zero does not begin with one.
    cases count with
    | zero => exact absurd split Nat.toDigits_ne_nil
    | succ count =>
      rw [split] at leading
      simp [List.replicate_succ] at leading
  | cons first following =>
    have value : Nat.ofDigitChars 10 (first :: following) 0 * Nat.pow 10 count = decimal.digits := by
      have whole := Nat.ofDigitChars_ten_toDigits (n := decimal.digits)
      rw [split, Nat.ofDigitChars_append, Nat.ofDigitChars_replicate_zero] at whole
      rw [Nat.mul_comm]
      exact whole
    have length : (Nat.toDigits 10 decimal.digits).length = (first :: following).length + count := by
      rw [split, List.length_append, List.length_replicate]
    refine ⟨first, following, _, ?_, ?_, ?_, rfl, ?_, ?_, ?_⟩
    · simp only [Decimal.significand, stripped]
    · intro c member
      apply isDigit_toDigits
      rw [split]
      exact List.mem_append_left _ member
    · rintro rfl
      rw [split] at leading
      simp at leading
    · omega
    · rw [← value]
      exact Nat.le_mul_of_pos_right _ (Nat.pow_pos (by decide))
    · have place : ((Nat.toDigits 10 decimal.digits).length + decimal.exponent - (following.length + 1) : Int) =
          decimal.exponent + count := by
        rw [List.length_cons] at length
        omega
      rw [place, ← FloatRounding.magnitude_zeros, value]

end Significands

section Texts

/-- What stands in a text: the number of its digits without their point, and the power of ten that goes with it. The
exponent behind the mark has at most three digits. -/
inductive Written : Text → Decimal → Prop where
  | point {whole fraction : Text} (numeral : Numeral whole) (digit : ∀ c ∈ fraction, isDigit c = true)
      (nonempty : fraction ≠ []) :
      Written (whole ++ '.' :: fraction) ⟨Nat.ofDigitChars 10 (whole ++ fraction) 0, -fraction.length⟩
  | mark {whole : Text} (numeral : Numeral whole) (exponent : Int) (short : exponent.natAbs < 1000) :
      Written (whole ++ 'e' :: integerText exponent) ⟨Nat.ofDigitChars 10 whole 0, exponent⟩
  | pointMark {whole fraction : Text} (numeral : Numeral whole) (digit : ∀ c ∈ fraction, isDigit c = true)
      (nonempty : fraction ≠ []) (exponent : Int) (short : exponent.natAbs < 1000) :
      Written (whole ++ '.' :: (fraction ++ 'e' :: integerText exponent))
        ⟨Nat.ofDigitChars 10 (whole ++ fraction) 0, exponent - fraction.length⟩

theorem positional_before {digits : Text} {point : Int} (nonempty : digits ≠ []) (place : point ≤ 0) :
    positional digits point = ['0'] ++ '.' :: (zeros (-point) ++ digits) := by
  have start : point.toNat = 0 := by omega
  have short : zeros (point - digits.length) = [] := by
    simp only [zeros, List.replicate_eq_nil_iff]
    omega
  simp [positional, start, short, nonempty]

theorem positional_between {digits : Text} {place : Nat} (positive : 0 < place) (inside : place < digits.length) :
    positional digits place = digits.take place ++ '.' :: digits.drop place := by
  have short : zeros (place - digits.length) = [] := by
    simp only [zeros, List.replicate_eq_nil_iff]
    omega
  have after : zeros (-(place : Int)) = [] := by
    simp [zeros]
  have before : digits.take place ≠ [] := by
    simp only [ne_eq, List.take_eq_nil_iff]
    rintro (zero | empty)
    · omega
    · simp [empty] at inside
  have behind : digits.drop place ≠ [] := by
    simp only [ne_eq, List.drop_eq_nil_iff]
    omega
  simp only [positional, short, after, Int.toNat_natCast, List.append_nil, List.nil_append]
  rw [if_neg (mt List.isEmpty_iff.mp before), if_neg (mt List.isEmpty_iff.mp behind), List.append_assoc,
    List.singleton_append]

theorem positional_behind {digits : Text} {point : Int} (nonempty : digits ≠ []) (place : digits.length ≤ point) :
    positional digits point = (digits ++ zeros (point - digits.length)) ++ '.' :: ['0'] := by
  have length := List.length_pos_iff.mpr nonempty
  have all : digits.take point.toNat = digits := List.take_of_length_le (by omega)
  have none : digits.drop point.toNat = [] := List.drop_of_length_le (by omega)
  have after : zeros (-point) = [] := by
    simp only [zeros, List.replicate_eq_nil_iff]
    omega
  simp [positional, all, none, after, nonempty]

/-- A text of a double. What stands in it rounds to the double, and it has few digits and no great negative exponent. -/
structure Shows (token : Text) (magnitude : Nat) (shown : Decimal) : Prop where
  written : Written token shown
  magnitude : shown.magnitude = magnitude
  digits : shown.digits ≤ Nat.pow 10 17
  exponent : -342 ≤ shown.exponent

section Forms
variable {decimal : Decimal} {first : Char} {following : Text} {point : Int}

private theorem shows_before (significant : Significant decimal first following point)
    (small : decimal.digits ≤ Nat.pow 10 17) (low : -342 ≤ decimal.exponent) (before : point ≤ 0) :
    ∃ shown, Shows (positional (first :: following) point) decimal.magnitude shown := by
  have fraction : ∀ c ∈ zeros (-point) ++ first :: following, isDigit c = true := by
    intro c member
    rcases List.mem_append.mp member with zero | inside
    · exact isDigit_zeros c zero
    · exact significant.digit c inside
  have digits : Nat.ofDigitChars 10 (['0'] ++ (zeros (-point) ++ first :: following)) 0 =
      Nat.ofDigitChars 10 (first :: following) 0 :=
    (Nat.ofDigitChars_append 0).trans (ofDigitChars_zeros (-point) _)
  have exponent : (-(zeros (-point) ++ first :: following).length : Int) = point - (following.length + 1) := by
    simp only [zeros, List.length_append, List.length_replicate, List.length_cons]
    omega
  have place := significant.place
  have length := significant.length
  rw [positional_before (by simp) before]
  refine ⟨_, .point numeral_zero fraction (by simp), ?_, ?_, ?_⟩
  · rw [digits, exponent]
    exact significant.magnitude
  · rw [digits]
    exact Nat.le_trans significant.digits small
  · rw [List.length_cons] at length
    simp only [exponent]
    omega

private theorem shows_between {place : Nat} (significant : Significant decimal first following (place + 1 : Nat))
    (small : decimal.digits ≤ Nat.pow 10 17) (low : -342 ≤ decimal.exponent) (inside : place < following.length) :
    ∃ shown, Shows (positional (first :: following) (place + 1 : Nat)) decimal.magnitude shown := by
  have whole : ∀ c ∈ first :: following.take place, isDigit c = true := by
    intro c member
    exact significant.digit c (List.mem_of_mem_take (i := place + 1) member)
  have fraction : ∀ c ∈ following.drop place, isDigit c = true := by
    intro c member
    exact significant.digit c (List.mem_of_mem_drop (i := place + 1) member)
  have long : following.drop place ≠ [] := by
    simp only [ne_eq, List.drop_eq_nil_iff]
    omega
  have digits : first :: following.take place ++ following.drop place = first :: following := by
    rw [List.cons_append, List.take_append_drop]
  have exponent : (-(following.drop place).length : Int) = (place + 1 : Nat) - (following.length + 1) := by
    rw [List.length_drop]
    omega
  have place := significant.place
  have length := significant.length
  rw [positional_between (Nat.succ_pos _) (by simpa using inside), List.take_succ_cons, List.drop_succ_cons]
  refine ⟨_, .point (numeral_of_leading whole significant.leading) fraction long, ?_, ?_, ?_⟩
  · rw [digits, exponent]
    exact significant.magnitude
  · rw [digits]
    exact Nat.le_trans significant.digits small
  · rw [List.length_cons] at length
    simp only [exponent]
    omega

private theorem shows_behind (significant : Significant decimal first following point) (bounded : point ≤ 16)
    (behind : (first :: following).length ≤ point) :
    ∃ shown, Shows (positional (first :: following) point) decimal.magnitude shown := by
  have whole : ∀ c ∈ first :: (following ++ zeros (point - (first :: following).length)), isDigit c = true := by
    intro c member
    rcases List.mem_append.mp (List.cons_append ▸ member) with inside | zero
    · exact significant.digit c inside
    · exact isDigit_zeros c zero
  rw [positional_behind (by simp) behind]
  refine ⟨_, .point (numeral_of_leading whole significant.leading) numeral_zero.digit (by simp), ?_, ?_, ?_⟩
  · rw [← significant.magnitude, ofDigitChars_zeros_behind, FloatRounding.magnitude_zeros]
    congr 2
    simp only [List.length_cons, List.length_nil] at behind ⊢
    omega
  · -- The zeros do not carry the number beyond the digits of the greatest positional text.
    have digit : ∀ c ∈ first :: following ++ zeros (point - (first :: following).length) ++ ['0'],
        isDigit c = true := by
      intro c member
      rcases List.mem_append.mp member with inside | last
      · exact whole c inside
      · rw [List.mem_singleton.mp last]
        decide
    have bound := ofDigitChars_lt digit 0
    have most : Nat.pow 10 (first :: following ++ zeros (point - (first :: following).length) ++ ['0']).length ≤
        Nat.pow 10 17 := by
      apply Nat.pow_le_pow_right (by decide)
      simp only [zeros, List.length_append, List.length_replicate, List.length_cons, List.length_nil] at behind ⊢
      omega
    simp only
    omega
  · simp

/-- The point stands before all significant digits, between two of them or behind them all. -/
theorem shows_positional (significant : Significant decimal first following point)
    (small : decimal.digits ≤ Nat.pow 10 17) (low : -342 ≤ decimal.exponent) (bounded : point ≤ 16) :
    ∃ shown, Shows (positional (first :: following) point) decimal.magnitude shown := by
  by_cases before : point ≤ 0
  · exact shows_before significant small low before
  by_cases behind : (first :: following).length ≤ point
  · exact shows_behind significant bounded behind
  obtain ⟨place, rfl⟩ : ∃ place : Nat, point = (place + 1 : Nat) := ⟨point.toNat - 1, by omega⟩
  apply shows_between significant small low
  rw [List.length_cons] at behind
  omega

private theorem shows_scientific (significant : Significant decimal first following point)
    (small : decimal.digits ≤ Nat.pow 10 17) (low : -342 ≤ decimal.exponent) (high : decimal.exponent ≤ 308) :
    ∃ shown, Shows (scientific false (first :: following) point) decimal.magnitude shown := by
  have length := significant.length
  have place := significant.place
  have most : (Nat.toDigits 10 decimal.digits).length ≤ 18 := by
    apply (Nat.length_toDigits_le_iff (by decide) (by decide)).mpr
    exact Nat.lt_of_le_of_lt small (by decide)
  have short : (point - 1).natAbs < 1000 := by omega
  have numeral : Numeral [first] :=
    numeral_of_leading (fun c member => significant.digit c (by simp_all)) significant.leading
  have digits := Nat.le_trans significant.digits small
  cases following with
  | nil =>
    refine ⟨_, .mark numeral (point - 1) short, significant.magnitude, digits, ?_⟩
    rw [List.length_singleton] at length
    simp only
    omega
  | cons second more =>
    have fraction : ∀ c ∈ second :: more, isDigit c = true :=
      fun c member => significant.digit c (List.mem_cons_of_mem first member)
    have exponent : point - 1 - (second :: more).length = point - ((second :: more).length + 1) := by omega
    have text : scientific false (first :: second :: more) point =
        [first] ++ '.' :: (second :: more ++ 'e' :: integerText (point - 1)) := by simp [scientific]
    rw [text]
    refine ⟨_, .pointMark numeral fraction (by simp) (point - 1) short, ?_, digits, ?_⟩
    · rw [exponent]
      exact significant.magnitude
    · rw [List.length_cons] at length
      simp only
      omega

end Forms

/-- The text of a finite double shows a decimal that rounds to the double. -/
theorem shows_shortest {magnitude : Nat} (finite : magnitude < Binary64.infinite) :
    ∃ shown, Shows (Value.floatLayout.shortest magnitude) magnitude shown := by
  by_cases zero : magnitude = 0
  · have text : Value.floatLayout.shortest 0 = ['0'] ++ '.' :: ['0'] := by decide
    rw [zero, text]
    exact ⟨_, .point numeral_zero numeral_zero.digit (by simp), FloatRounding.magnitude_zero _, by decide, by decide⟩
  have exact := FloatRounding.magnitude_shortest Value.floatLayout.tie finite
  obtain ⟨small, low, high⟩ :=
    ShortestDigits.shortest_bounds Value.floatLayout.tie (Nat.pos_of_ne_zero zero) finite
  simp only [Layout.shortest]
  generalize Decimal.shortest Value.floatLayout.tie magnitude = decimal at *
  have nonzero : decimal.digits ≠ 0 := FloatRounding.digits_of_magnitude (by omega)
  obtain ⟨first, following, point, significant⟩ := exists_significant nonzero
  simp only [Decimal.text, significant.significand]
  rw [← exact]
  split
  next inside => exact shows_positional significant small low (Int.le_of_sub_one_lt inside.2)
  next => exact shows_scientific significant small low high

end Texts

theorem floatText_finite {x : Binary64} (finite : x.isFinite = true) : Value.floatText x =
    (if x.isNegative then ['-'] else []) ++ Value.floatLayout.shortest x.magnitude := by
  have below : x.magnitude < Binary64.infinite := of_decide_eq_true finite
  have defined : x.isNaN = false := decide_eq_false (by omega)
  have bounded : x.isInfinite = false := beq_eq_false_iff_ne.mpr (Nat.ne_of_lt below)
  rw [Value.floatText, defined, bounded]
  rfl

end ChefDsl.Proofs.NumeralShape
