import ChefDsl.Binary64.Rounding
import ChefDsl.Json.Number
import ChefDsl.Json.Reading
import ChefDsl.Text.Class

/-! Numerals of a JSON text. Digits are gathered into a significand for as long as it stays below 2^64, and a
power of ten stands for the others. A numeral without point and exponent keeps its digits. Any other one is the
double of its significand times or divided by the double of its power of ten, so it is rounded up to three times
and need not be the double nearest to the numeral. -/

namespace ChefDsl.Json

def digitValue (c : Char) : Nat := c.toNat - '0'.toNat

/-- Takes digits for as long as the number that they extend stays within the bound. -/
def gather (bound value : Nat) : (text : Text) → Step Nat text
  | [] => ⟨value, [], List.suffix_refl _⟩
  | c :: rest =>
    if isDigit c ∧ value * 10 + digitValue c ≤ bound then
      (gather bound (value * 10 + digitValue c) rest).extend (List.suffix_cons c rest)
    else ⟨value, c :: rest, List.suffix_refl _⟩

/-- Passes over digits and tells how many there were. -/
def passDigits (text : Text) : Step Nat text :=
  ⟨(text.takeWhile isDigit).length, text.dropWhile isDigit, List.dropWhile_suffix isDigit⟩

def significandBound : Nat := 0xFFFFFFFFFFFFFFFF

def exponentBound : Nat := 0x7FFFFFFF

/-- The greatest power of ten that is a finite double. -/
def greatestPower : Nat := 308

def powerOfTen (power : Nat) : Nat := Binary64.roundNat (Nat.pow 10 power)

/-- Divides by a power of ten, by the greatest one first while it is too great. -/
def divideByPower (magnitude power : Nat) : Nat :=
  if power ≤ greatestPower then Binary64.divide magnitude (powerOfTen power)
  else if magnitude = 0 then 0
  else divideByPower (Binary64.divide magnitude (powerOfTen greatestPower)) (power - greatestPower)
termination_by power
decreasing_by simp [greatestPower] at *; omega

def scaleByPower (significand : Nat) : Int → Nat
  | .ofNat power =>
    if power ≤ greatestPower then Binary64.multiply (Binary64.roundNat significand) (powerOfTen power)
    else if significand = 0 then 0
    else Binary64.infinite
  | .negSucc power => divideByPower (Binary64.roundNat significand) (power + 1)

/-- The double of a numeral, where it is finite. -/
def Number.ofScientific? (negative : Bool) (significand : Nat) (power : Int) : Option Number :=
  let x := Binary64.ofMagnitude negative (scaleByPower significand power)
  if finite : x.isFinite then some (.float x finite) else none

/-- The greatest number whose negative is a signed whole number. -/
def negativeBound : Nat := 0x8000000000000000

private theorem toInt_ofInt_neg {n : Nat} (positive : 0 < n) (bounded : n ≤ negativeBound) :
    (Int64.ofInt (-n)).toInt < 0 := by
  rw [negativeBound] at bounded
  rw [Int64.toInt_ofInt_of_le] <;> omega

/-- A whole numeral keeps its digits where its range allows. The negative zero is a float. -/
def Number.ofWhole? (negative : Bool) (n : Nat) : Option Number :=
  if negative then
    if inside : 0 < n ∧ n ≤ negativeBound then some (.negative (Int64.ofInt (-n)) (toInt_ofInt_neg inside.1 inside.2))
    else ofScientific? true n 0
  else some (.natural (UInt64.ofNat n))

def numberOr {text rest : Text} (number : Option Number) (left : rest <:+ text) : Reading Number text :=
  match number with
  | some number => found number left
  | none => faultAfter .numberOutOfRange rest

/-- Takes the sign of an exponent and tells whether it is negative. -/
def takeSign : (text : Text) → Step Bool text
  | '+' :: rest => ⟨false, rest, List.suffix_cons '+' rest⟩
  | '-' :: rest => ⟨true, rest, List.suffix_cons '-' rest⟩
  | text => ⟨false, text, List.suffix_refl text⟩

/-- Reads what follows the exponent mark. An exponent beyond its bound leaves zero or no number at all. -/
def readExponent (negative : Bool) (significand : Nat) (power : Int) (text : Text) : Reading Number text :=
  let lowers := takeSign text
  match lowers.rest.head? with
  | none => faultAt .unfinishedValue lowers.rest
  | some c =>
    if !isDigit c then faultAt .invalidNumber lowers.rest
    else
      let exponent := gather exponentBound 0 lowers.rest
      let beyond := passDigits exponent.rest
      let left := (beyond.left.trans exponent.left).trans lowers.left
      if beyond.value = 0 then
        let power := if lowers.value then power - exponent.value else power + exponent.value
        numberOr (Number.ofScientific? negative significand power) left
      else if significand ≠ 0 ∧ !lowers.value then faultAfter .numberOutOfRange exponent.rest.tail
      else numberOr (Number.ofScientific? negative 0 0) left

/-- Reads what may follow the whole and fractional digits of a numeral that is no whole number. -/
def readScale (negative : Bool) (significand : Nat) (power : Int) (text : Text) : Reading Number text :=
  match text with
  | 'e' :: rest | 'E' :: rest =>
    (readExponent negative significand power rest).map (·.extend (List.suffix_cons _ rest))
  | text => numberOr (Number.ofScientific? negative significand power) (List.suffix_refl text)

/-- Reads the digits after the point. Those beyond the significand's bound are passed over. -/
def readFraction (negative : Bool) (significand : Nat) (power : Int) (text : Text) : Reading Number text :=
  match text.head? with
  | none => faultAt .unfinishedValue text
  | some c =>
    if !isDigit c then faultAt .invalidNumber text
    else
      let fraction := gather significandBound significand text
      let beyond := passDigits fraction.rest
      let places : Nat := text.length - fraction.rest.length
      (readScale negative fraction.value (power - places) beyond.rest).map
        (·.extend (beyond.left.trans fraction.left))

/-- Reads a numeral without its sign. -/
def readMagnitude (negative : Bool) (text : Text) : Reading Number text :=
  match text with
  | [] => faultAt .unfinishedValue text
  | c :: rest =>
    if !isDigit c then faultAt .invalidNumber text
    else if c = '0' ∧ (rest.head?.any isDigit) then faultAt .invalidNumber rest
    else
      let whole := gather significandBound 0 (c :: rest)
      let beyond := passDigits whole.rest
      let left := beyond.left.trans whole.left
      match following : beyond.rest with
      | '.' :: fraction =>
        (readFraction negative whole.value beyond.value fraction).map
          (·.extend ((List.suffix_cons '.' fraction).trans (following ▸ left)))
      | 'e' :: _ | 'E' :: _ =>
        (readScale negative whole.value beyond.value beyond.rest).map (·.extend left)
      | _ =>
        numberOr
          (if beyond.value = 0 then Number.ofWhole? negative whole.value
            else Number.ofScientific? negative whole.value beyond.value)
          left

/-- Reads a numeral. -/
def readNumber (text : Text) : Reading Number text :=
  match text with
  | '-' :: rest => (readMagnitude true rest).map (·.extend (List.suffix_cons '-' rest))
  | text => readMagnitude false text

end ChefDsl.Json
