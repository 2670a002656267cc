import ChefDsl.Error
import ChefDsl.Text.Class

/-! Run lists: the recipes and roles that a node runs, in order. An item is written `recipe[name]`,
`recipe[name@version]` or `role[name]`, and a recipe also without its word and brackets. -/

namespace ChefDsl.RunList

inductive Kind where
  | recipe
  | role
deriving DecidableEq

def Kind.word : Kind → String
  | recipe => "recipe"
  | role => "role"

/-- The version pins the cookbook of a recipe. -/
structure Item where
  kind : Kind
  name : String
  version : Option String
deriving DecidableEq

/-- Two or three runs of digits between points. -/
def isVersion (text : Text) : Bool :=
  let parts := text.splitOn '.'
  (parts.length == 2 || parts.length == 3) && parts.all fun part => !part.isEmpty && part.all isDigit

def isName (text : Text) : Bool :=
  !text.isEmpty && text.all fun c => c != '[' && c != ']'

/-- The part between the brackets of `word[...]`. -/
def body? (word : String) (text : Text) : Option Text :=
  let opening := word.toList ++ ['[']
  if opening.isPrefixOf text then
    let rest := text.drop opening.length
    if rest.getLast? = some ']' then some rest.dropLast else none
  else none

/-- A recipe with what its brackets hold: a name, and a version after the first `@`. -/
def recipe? (text : Text) : Option Item :=
  let name := text.takeWhile (· != '@')
  let version := text.dropWhile (· != '@')
  if isName name ∧ (version = [] ∨ isVersion version.tail) then
    some ⟨.recipe, String.ofList name, if version = [] then none else some (String.ofList version.tail)⟩
  else none

def role? (text : Text) : Option Item :=
  if isName text then some ⟨.role, String.ofList text, none⟩ else none

/-- Reads an item. A text in no known brackets is a bare recipe, or no item if it holds a bracket. -/
def Item.parse? (text : Text) : Option Item :=
  let item := text.trim
  match body? "recipe" item with
  | some body => recipe? body
  | none =>
    match body? "role" item with
    | some body => role? body
    | none => recipe? item

def Item.parse (item : String) : Except Error Item :=
  match parse? item.toList with
  | some item => .ok item
  | none => .error (.invalidRunListItem item)

def Item.text (item : Item) : Text :=
  let version := match item.version with
    | some version => '@' :: version.toList
    | none => []
  item.kind.word.toList ++ ['['] ++ item.name.toList ++ version ++ [']']

def Item.toString (item : Item) : String := String.ofList item.text

end ChefDsl.RunList

namespace ChefDsl

abbrev RunList := List RunList.Item

end ChefDsl
