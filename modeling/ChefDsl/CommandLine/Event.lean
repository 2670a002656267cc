import ChefDsl.Decimal.Layout
import ChefDsl.Document

/-! What a run may log. An event has a level, a target that names the part of the run it belongs to, a message,
and named fields that give the circumstances. -/

namespace ChefDsl.CommandLine

/-- A step of a run that is worth a line in the log. -/
inductive Event where
  | detected (marker : Document.Marker)
  | loaded (entity : Entity)
  | emitting (role : Role)
  | rendered (entity : Entity) (source : Text)

namespace Event

/-- Floats in the log stand positionally from 0.00001 up to below 10^16, a tie between digits goes to the even
one, and positive exponents have a plus sign. -/
def floatLayout : Decimal.Layout := ⟨-5, 16, .even, true⟩

def inspectNumber : Json.Number → Text
  | .natural n => Nat.toDigits 10 n.toNat
  | .negative n _ => Decimal.integerText n.toInt
  | .float x _ => (if x.isNegative then ['-'] else []) ++ floatLayout.shortest x.magnitude

mutual

/-- A document with the kind of each of its parts. -/
def inspect : Json → Text
  | .null => "Null".toList
  | .bool true => "Bool(true)".toList
  | .bool false => "Bool(false)".toList
  | .number n => "Number(".toList ++ inspectNumber n ++ [')']
  | .string text => "String(".toList ++ Text.escaped text.toList ++ [')']
  | .array items => "Array [".toList ++ [',', ' '].intercalate (inspectItems items) ++ [']']
  | .object entries => "Object \x7b".toList ++ [',', ' '].intercalate (inspectEntries entries) ++ ['\x7d']

def inspectItems : List Json → List Text
  | [] => []
  | item :: rest => inspect item :: inspectItems rest

def inspectEntries : List (String × Json) → List Text
  | [] => []
  | (key, value) :: rest => (Text.escaped key.toList ++ [':', ' '] ++ inspect value) :: inspectEntries rest

end

/-- Verbosities run from none (0) over errors (1), warnings, information and debugging to tracing (5). -/
def verbosity : Event → Nat
  | detected _ => 5
  | _ => 4

def levelName : Event → String
  | detected _ => "TRACE"
  | _ => "DEBUG"

def target : Event → String
  | detected _ => "chef_rb::model::loader"
  | loaded _ => "chef_rb"
  | emitting _ | rendered _ _ => "chef_rb::renderer::renders"

def message : Event → String
  | detected (.jsonClass _) => "detecting entity kind from json_class"
  | detected (.chefType _) => "detecting entity kind from chef_type"
  | loaded _ => "loaded entity"
  | emitting role => if role.writesByEnvironment then "emitting env_run_lists" else "emitting run_list"
  | rendered _ _ => "rendered entity"

def entityFields (entity : Entity) : List (String × Text) :=
  [("kind", Text.escaped entity.kind.name.toList), ("name", Text.escaped entity.name.toList)]

/-- The fields after the message, in the order in which a line shows them. -/
def fields : Event → List (String × Text)
  | detected (.jsonClass value) => [("class", inspect value)]
  | detected (.chefType value) => [("chef_type", inspect value)]
  | loaded entity => entityFields entity
  | emitting role =>
    [("role", role.name.toList),
      if role.writesByEnvironment then ("environments", Nat.toDigits 10 role.envRunLists.length)
      else ("items", Nat.toDigits 10 role.runList.length)]
  | rendered entity source => entityFields entity ++ [("bytes", Nat.toDigits 10 source.byteSize)]

/-- The message counts as a field too. -/
def hasField (event : Event) (name : String) : Bool :=
  name == "message" || event.fields.any fun field => field.1 == name

def line (event : Event) : String :=
  let fields := event.fields.map fun field => s!" {field.1}={String.ofList field.2}"
  s!"{event.levelName} {event.target}: {event.message}{String.join fields}\n"

end Event
end ChefDsl.CommandLine
