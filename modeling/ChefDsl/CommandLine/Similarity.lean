/-! How alike two words are, by the Jaro measure. Letters match when they are equal and stand in nearby places.
The measure is the mean of three shares: of the first word that matches, of the second word that matches, and of
the matches that come in the same order in both. -/

namespace ChefDsl.CommandLine

/-- A ratio of natural numbers. -/
structure Similarity where
  numerator : Nat
  denominator : Nat

namespace Similarity

/-- The first letter that is equal, not taken yet and within reach. -/
def partner? (letter : Char) (word : List Char) (taken : List Nat) (least bound : Nat) : Option Nat :=
  (List.range word.length).find? fun place =>
    least ≤ place && place < bound && word[place]? == some letter && !taken.contains place

/-- The places in the second word of the letters that match, in the order of the first word. -/
def partners (reach : Nat) (second : List Char) : List (Char × Nat) → List Nat → List Nat
  | [], taken => taken
  | (letter, place) :: rest, taken =>
    match partner? letter second taken (place - reach) (place + reach + 1) with
    | some found => partners reach second rest (taken ++ [found])
    | none => partners reach second rest taken

def ofWords (first second : String) : Similarity :=
  let first := first.toList
  let second := second.toList
  let reach := max first.length second.length / 2 - 1
  let taken := partners reach second first.zipIdx []
  let matching := taken.length
  let moved := (taken.zip taken.mergeSort).countP fun pair => second[pair.1]? != second[pair.2]?
  let ordered := matching - moved / 2
  ⟨matching * matching * second.length + matching * matching * first.length +
      ordered * first.length * second.length,
    3 * first.length * second.length * matching⟩

def atLeast (similarity bound : Similarity) : Bool :=
  0 < similarity.denominator &&
    bound.numerator * similarity.denominator ≤ similarity.numerator * bound.denominator

end Similarity
end ChefDsl.CommandLine
