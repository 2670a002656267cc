import ChefDsl.Value.Equality

/-! Environments: cookbook version constraints and attributes. -/

namespace ChefDsl

structure Environment where
  name : String
  description : String
  cookbookVersions : Entries String
  defaultAttributes : Attributes
  overrideAttributes : Attributes

namespace Environment

def named (name : String) : Environment := ⟨name, "", [], [], []⟩

/-- One setting of an environment under construction. -/
inductive Change where
  | description (text : String)
  | defaultAttributes (attributes : Attributes)
  | overrideAttributes (attributes : Attributes)
  | cookbook (name : String) (constraint : String)

def apply (environment : Environment) : Change → Environment
  | .description text => { environment with description := text }
  | .defaultAttributes attributes => { environment with defaultAttributes := attributes }
  | .overrideAttributes attributes => { environment with overrideAttributes := attributes }
  | .cookbook name constraint =>
    { environment with cookbookVersions := environment.cookbookVersions.put name constraint }

def build (name : String) (changes : List Change) : Environment := changes.foldl apply (named name)

/-- The order of keys does not count. -/
def equal (first second : Environment) : Bool :=
  first.name == second.name && first.description == second.description &&
    first.cookbookVersions.agree (· == ·) second.cookbookVersions &&
    (Value.hash first.defaultAttributes).equal (.hash second.defaultAttributes) &&
    (Value.hash first.overrideAttributes).equal (.hash second.overrideAttributes)

end Environment
end ChefDsl
