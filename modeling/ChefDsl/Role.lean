import ChefDsl.RunList
import ChefDsl.Value.Equality

/-! Roles: a named bundle of attributes and run lists. -/

namespace ChefDsl

/-- The run lists are kept by the name of the environment they are for. -/
structure Role where
  name : String
  description : String
  defaultAttributes : Attributes
  overrideAttributes : Attributes
  runList : RunList
  envRunLists : Entries RunList

namespace Role

def named (name : String) : Role := ⟨name, "", [], [], [], []⟩

/-- One setting of a role under construction. -/
inductive Change where
  | description (text : String)
  | defaultAttributes (attributes : Attributes)
  | overrideAttributes (attributes : Attributes)
  | runList (items : RunList)
  | envRunList (environment : String) (items : RunList)

def apply (role : Role) : Change → Role
  | .description text => { role with description := text }
  | .defaultAttributes attributes => { role with defaultAttributes := attributes }
  | .overrideAttributes attributes => { role with overrideAttributes := attributes }
  | .runList items => { role with runList := items }
  | .envRunList environment items => { role with envRunLists := role.envRunLists.put environment items }

def build (name : String) (changes : List Change) : Role := changes.foldl apply (named name)

/-- The order of attribute keys and of environments does not count, that of run lists does. -/
def equal (first second : Role) : Bool :=
  first.name == second.name && first.description == second.description &&
    (Value.hash first.defaultAttributes).equal (.hash second.defaultAttributes) &&
    (Value.hash first.overrideAttributes).equal (.hash second.overrideAttributes) &&
    first.runList == second.runList &&
    first.envRunLists.agree (· == ·) second.envRunLists

end Role
end ChefDsl
