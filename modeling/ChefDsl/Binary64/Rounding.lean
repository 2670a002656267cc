import ChefDsl.Binary64.Basic

/-! Rounding to the nearest double, ties to the even neighbour. A magnitude counts the representable numbers
below it, so the magnitude of a rounded value is the number of steps it holds at its own spacing plus one whole
exponent field for each doubling of the spacing. Products and quotients of doubles are rounded exact results. -/

namespace ChefDsl.Binary64

/-- The whole number nearest to a ratio, a half going to the even one. -/
def nearest (numerator denominator : Nat) : Nat :=
  let quotient := numerator / denominator
  let twice := 2 * (numerator % denominator)
  if twice < denominator then quotient
  else if denominator < twice then quotient + 1
  else quotient + quotient % 2

/-- The magnitude nearest to a ratio, or infinity where the ratio lies beyond the finite ones. -/
def roundRatio (numerator denominator : Nat) : Nat :=
  let scaled := numerator * stepsPerUnit
  let doublings := (scaled / denominator).log2 - 52
  min (doublings * exponentWeight + nearest scaled (denominator * Nat.pow 2 doublings)) infinite

/-- The magnitude of a natural number. -/
def roundNat (n : Nat) : Nat := roundRatio n 1

def multiply (first second : Nat) : Nat :=
  roundRatio (steps first * steps second) (stepsPerUnit * stepsPerUnit)

def divide (first second : Nat) : Nat :=
  roundRatio (steps first) (steps second)

end ChefDsl.Binary64
