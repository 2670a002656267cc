import ChefDsl.Value.Basic

/-! Equality of values. Hashes are equal whatever the order of their keys, arrays only in order, and floats
as numbers, so a value that holds a NaN differs even from itself. The kinds of whole numbers are kept apart. -/

namespace ChefDsl.Value

mutual

def equal : Value → Value → Bool
  | nil, nil => true
  | bool first, bool second => first == second
  | integer first, integer second => first == second
  | unsigned first, unsigned second => first == second
  | float first, float second => first.equal second
  | string first, string second => first == second
  | array first, array second => equalItems first second
  | hash first, hash second => first.length == second.length && equalUnder first second
  | _, _ => false

def equalItems : List Value → List Value → Bool
  | [], [] => true
  | first :: others, second :: rest => equal first second && equalItems others rest
  | _, _ => false

/-- Whether each entry of the first map has an equal value under its key in the second. -/
def equalUnder : List (String × Value) → List (String × Value) → Bool
  | [], _ => true
  | (key, value) :: rest, entries =>
    (match entries.lookup key with
      | some other => equal value other
      | none => false) && equalUnder rest entries

end

end ChefDsl.Value
