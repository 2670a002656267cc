import ChefDsl.Binary64.Rounding

/-! The shortest decimal of a double: among the decimals that round to it, one with the fewest digits, and of
those the nearest. On the grid of decimals with a given number of digits only the two neighbours of the value
can be that decimal, so each grid costs two trial readings. -/

namespace ChefDsl

/-- The number `digits * 10 ^ exponent`. -/
structure Decimal where
  digits : Nat
  exponent : Int
deriving DecidableEq

namespace Decimal

/-- Where a value goes that lies halfway between its neighbours on a grid: upward, or to the even one. -/
inductive Tie where
  | up
  | even
deriving DecidableEq

/-- The magnitude of the double nearest to the decimal. -/
def magnitude (decimal : Decimal) : Nat :=
  match decimal.exponent with
  | .ofNat power => Binary64.roundRatio (decimal.digits * Nat.pow 10 power) 1
  | .negSucc power => Binary64.roundRatio decimal.digits (Nat.pow 10 (power + 1))

/-- Enough decimal places for even the least positive double to show more than seventeen digits. -/
def places : Nat := 342

/-- The value of a magnitude in units of its last decimal place, rounded down. -/
def scaled (magnitude : Nat) : Nat :=
  Binary64.steps magnitude * Nat.pow 10 places / Binary64.stepsPerUnit

/-- The grid point below the value, where `dropped` digits of the scaled value are cut off. -/
def below (magnitude dropped : Nat) : Decimal :=
  ⟨scaled magnitude / Nat.pow 10 dropped, dropped - places⟩

def above (magnitude dropped : Nat) : Decimal :=
  ⟨scaled magnitude / Nat.pow 10 dropped + 1, dropped - places⟩

/-- Whether the value goes to the grid point below it when both of its neighbours are open to it. -/
def leansDown (tie : Tie) (magnitude dropped : Nat) : Bool :=
  let value := 2 * (Binary64.steps magnitude * Nat.pow 10 places)
  let low := (below magnitude dropped).digits
  let middle := (2 * low + 1) * Nat.pow 10 dropped * Binary64.stepsPerUnit
  value < middle || (value == middle && tie == .even && low % 2 == 0)

/-- The neighbour on one grid that reads back, the nearer one if both do. -/
def onGrid? (tie : Tie) (magnitude dropped : Nat) : Option Decimal :=
  let low := below magnitude dropped
  let high := above magnitude dropped
  if low.magnitude = magnitude ∧ (leansDown tie magnitude dropped ∨ high.magnitude ≠ magnitude) then some low
  else if high.magnitude = magnitude then some high
  else none

/-- Every double is a decimal, for halving a number adds one decimal place. -/
def exact (magnitude : Nat) : Decimal :=
  ⟨Binary64.steps magnitude * Nat.pow 5 1074, -1074⟩

/-- Seventeen digits tell any two doubles apart, so the exact decimal is never needed in practice. -/
def shortest (tie : Tie) (magnitude : Nat) : Decimal :=
  if magnitude = 0 then ⟨0, 0⟩
  else
    let length := (Nat.toDigits 10 (scaled magnitude)).length
    ((List.range' 1 17).findSome? fun count => onGrid? tie magnitude (length - count)).getD (exact magnitude)

end Decimal
end ChefDsl
