import ChefDsl.Json.Reading
import ChefDsl.Text.Escaped

/-! What can be wrong with a document, or with a value in the place where it stands. -/

namespace ChefDsl

inductive EntityKind where
  | role
  | environment
deriving DecidableEq

def EntityKind.name : EntityKind → String
  | role => "role"
  | environment => "environment"

/-- What a field of a document has to hold. -/
inductive Shape where
  | string
  | object
  | stringArray
deriving DecidableEq

def Shape.description : Shape → String
  | string => "a string"
  | object => "an object"
  | stringArray => "an array of strings"

inductive Error where
  | unsupportedEntityKind (kind : String)
  | unsupportedValueKind (className : String)
  | invalidRunListItem (item : String)
  | missingField (kind : EntityKind) (field : String)
  | invalidField (kind : EntityKind) (field : String) (expected : Shape)
  | json (error : Json.Error)
deriving DecidableEq

def Error.message : Error → String
  | unsupportedEntityKind kind => s!"[{kind}] is not supported by ruby format"
  | unsupportedValueKind className => s!"Object type [{className}] is not supported"
  | invalidRunListItem item => s!"invalid run list item: {String.ofList (Text.escaped item.toList)}"
  | missingField kind field => s!"{kind.name} document is missing required field `{field}`"
  | invalidField kind field expected => s!"{kind.name} field `{field}` must be {expected.description}"
  | json error => s!"failed to parse JSON document: {error.message}"

end ChefDsl
