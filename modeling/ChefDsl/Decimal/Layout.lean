import ChefDsl.Decimal.Shortest
import ChefDsl.Text.Class

/-! Decimals as text. A decimal whose leading digit stands near the point is written positionally with at least
one place on either side of the point, and any other one with an exponent mark. -/

namespace ChefDsl.Decimal

/-- How doubles are written. A decimal is positional where the exponent of its leading digit is from `least` up
to below `bound`. A positive exponent after the mark has a plus sign where `plus` says so. -/
structure Layout where
  least : Int
  bound : Int
  tie : Tie
  plus : Bool

/-- Significant digits without trailing zeros, and the place of the point counted from their first one. -/
def significand (decimal : Decimal) : Text × Int :=
  let digits := Nat.toDigits 10 decimal.digits
  ((digits.reverse.dropWhile (· == '0')).reverse, digits.length + decimal.exponent)

def zeros (count : Int) : Text := List.replicate count.toNat '0'

def positional (digits : Text) (point : Int) : Text :=
  let whole := digits.take point.toNat ++ zeros (point - digits.length)
  let fraction := zeros (-point) ++ digits.drop point.toNat
  (if whole.isEmpty then ['0'] else whole) ++ ['.'] ++ (if fraction.isEmpty then ['0'] else fraction)

def integerText (n : Int) : Text :=
  if n < 0 then '-' :: Nat.toDigits 10 n.natAbs else Nat.toDigits 10 n.natAbs

/-- One digit before the point, and no point where no digit would follow it. -/
def scientific (plus : Bool) (digits : Text) (point : Int) : Text :=
  (match digits with
    | [] => ['0']
    | [first] => [first]
    | first :: following => first :: '.' :: following) ++
    ['e'] ++ (if plus && 0 < point - 1 then ['+'] else []) ++ integerText (point - 1)

def text (layout : Layout) (decimal : Decimal) : Text :=
  let (digits, point) := decimal.significand
  if layout.least ≤ point - 1 ∧ point - 1 < layout.bound then positional digits point
  else scientific layout.plus digits point

/-- The shortest text that reads back as a double of this magnitude. -/
def Layout.shortest (layout : Layout) (magnitude : Nat) : Text :=
  (Decimal.shortest layout.tie magnitude).text layout

end ChefDsl.Decimal
