import ChefDsl.Binary64.Basic

/-! Numbers of a JSON document. A whole number in range keeps its digits exactly, as a natural number or as a
negative one, so each whole number has one representation. Every other number is a finite double. -/

namespace ChefDsl.Json

inductive Number where
  | natural (n : UInt64)
  | negative (n : Int64) (below : n.toInt < 0)
  | float (x : Binary64) (finite : x.isFinite = true)
deriving DecidableEq

end ChefDsl.Json
