import ChefDsl.Entries
import ChefDsl.Json.Number

/-! JSON documents. Objects keep the order of their keys. -/

namespace ChefDsl

inductive Json where
  | null
  | bool (value : Bool)
  | number (value : Json.Number)
  | string (value : String)
  | array (items : List Json)
  | object (entries : List (String × Json))

namespace Json

/-- The word for the kind of a document in error texts. -/
def kindName : Json → String
  | null => "null"
  | bool _ => "boolean"
  | number _ => "number"
  | string _ => "string"
  | array _ => "array"
  | object _ => "object"

/-- A field of an object. A null field counts as absent. -/
def field? (entries : Entries Json) (name : String) : Option Json :=
  match entries.lookup name with
  | none | some null => none
  | some value => some value

end Json
end ChefDsl
