import ChefDsl.Json.Basic

/-! Attribute values: nested data of the kinds that have a literal in the DSL. -/

namespace ChefDsl

/-- A whole number is signed where it fits; `unsigned` is meant for those beyond the signed range. -/
inductive Value where
  | nil
  | bool (value : Bool)
  | integer (n : Int64)
  | unsigned (n : UInt64)
  | float (x : Binary64)
  | string (text : String)
  | array (items : List Value)
  | hash (entries : List (String × Value))

abbrev Attributes := Entries Value

namespace Value

/-- The class that the DSL gives to the value. -/
def className : Value → String
  | nil => "NilClass"
  | bool true => "TrueClass"
  | bool false => "FalseClass"
  | integer _ | unsigned _ => "Integer"
  | float _ => "Float"
  | string _ => "String"
  | array _ => "Array"
  | hash _ => "Hash"

/-- A natural number becomes a signed whole number where it fits. -/
def ofNatural (n : UInt64) : Value :=
  if n.toNat < 0x8000000000000000 then integer (Int64.ofNat n.toNat) else unsigned n

def ofNumber : Json.Number → Value
  | .natural n => ofNatural n
  | .negative n _ => integer n
  | .float x _ => float x

mutual

def ofJson : Json → Value
  | .null => nil
  | .bool value => bool value
  | .number value => ofNumber value
  | .string value => string value
  | .array items => array (ofItems items)
  | .object entries => hash (ofEntries entries)

def ofItems : List Json → List Value
  | [] => []
  | item :: rest => ofJson item :: ofItems rest

def ofEntries : List (String × Json) → List (String × Value)
  | [] => []
  | (key, value) :: rest => (key, ofJson value) :: ofEntries rest

end

end Value
end ChefDsl
