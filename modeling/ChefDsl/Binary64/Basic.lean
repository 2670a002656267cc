/-! Double precision numbers as their 64 bits: a sign above a magnitude. Magnitudes are ordered as the numbers
they stand for, with infinity above every finite one and NaN above infinity. Every finite magnitude is a whole
number of steps of size 2^-1074, so its exact value is a natural number. -/

namespace ChefDsl

structure Binary64 where
  bits : UInt64
deriving DecidableEq

namespace Binary64

def signWeight : Nat := 0x8000000000000000

/-- Weight of the exponent field within a magnitude. -/
def exponentWeight : Nat := 0x10000000000000

/-- The magnitude of infinity, the first one that is no finite number. -/
def infinite : Nat := 2047 * exponentWeight

/-- The steps in one unit: the least positive number is 1 / `stepsPerUnit`. -/
def stepsPerUnit : Nat := Nat.pow 2 1074

def isNegative (x : Binary64) : Bool := signWeight ≤ x.bits.toNat

def magnitude (x : Binary64) : Nat := x.bits.toNat % signWeight

def ofMagnitude (negative : Bool) (magnitude : Nat) : Binary64 :=
  ⟨UInt64.ofNat (magnitude + if negative then signWeight else 0)⟩

def isNaN (x : Binary64) : Bool := infinite < x.magnitude

def isInfinite (x : Binary64) : Bool := x.magnitude == infinite

def isFinite (x : Binary64) : Bool := x.magnitude < infinite

/-- The exact value of a finite magnitude, counted in steps. -/
def steps (magnitude : Nat) : Nat :=
  let field := magnitude / exponentWeight
  let fraction := magnitude % exponentWeight
  if field = 0 then fraction else (exponentWeight + fraction) * Nat.pow 2 (field - 1)

/-- Equality of numbers: NaN differs from everything and the two zeros are one. -/
def equal (x y : Binary64) : Bool :=
  !x.isNaN && !y.isNaN && (x.bits == y.bits || (x.magnitude == 0 && y.magnitude == 0))

theorem magnitude_ofMagnitude (negative : Bool) {magnitude : Nat} (bounded : magnitude < signWeight) :
    (ofMagnitude negative magnitude).magnitude = magnitude := by
  unfold signWeight at *
  cases negative <;> simp [ofMagnitude, Binary64.magnitude, signWeight] <;> omega

theorem isNegative_ofMagnitude (negative : Bool) {magnitude : Nat} (bounded : magnitude < signWeight) :
    (ofMagnitude negative magnitude).isNegative = negative := by
  unfold signWeight at *
  cases negative <;> simp [ofMagnitude, isNegative, signWeight] <;> omega

/-- A double is its sign and its magnitude. -/
theorem ofMagnitude_magnitude (x : Binary64) : ofMagnitude x.isNegative x.magnitude = x := by
  obtain ⟨bits⟩ := x
  have bounded := bits.toNat_lt
  have weight : signWeight = 0x8000000000000000 := rfl
  apply congrArg mk
  apply UInt64.toNat_inj.mp
  rw [UInt64.toNat_ofNat']
  change (bits.toNat % signWeight + if decide (signWeight ≤ bits.toNat) = true then signWeight else 0) %
    0x10000000000000000 = bits.toNat
  by_cases above : signWeight ≤ bits.toNat
  · rw [if_pos (decide_eq_true above)]
    rw [weight] at *
    omega
  · rw [if_neg (by simp [above])]
    rw [weight] at above ⊢
    omega

end Binary64
end ChefDsl
