import ChefDsl.Environment
import ChefDsl.Role

/-! The things that have a file of their own in the DSL. -/

namespace ChefDsl

inductive Entity where
  | role (value : Role)
  | environment (value : Environment)

namespace Entity

def kind : Entity → EntityKind
  | role _ => .role
  | environment _ => .environment

def name : Entity → String
  | role value => value.name
  | environment value => value.name

def equal : Entity → Entity → Bool
  | role first, role second => first.equal second
  | environment first, environment second => first.equal second
  | _, _ => false

end Entity
end ChefDsl
