import ChefDsl.CommandLine.Similarity

/-! The arguments of a command. They are taken from left to right, and the first fault ends the reading. An
option's value, when it is an argument of its own, is settled only once the next argument has been looked at, so
a later fault in the arguments can come before an earlier one in the values. -/

namespace ChefDsl.CommandLine

/-- What an argument can set or ask for. -/
inductive Parameter where
  | input
  | output
  | verbose
  | help
deriving DecidableEq

/-- An input named `-` is standard input. -/
structure Invocation where
  input : String
  output : Option String
  verbose : Bool
deriving DecidableEq

inductive Tip where
  | none
  | similar (option : Parameter)
  | separate
deriving DecidableEq

/-- What is wrong with the arguments. The parameters are those that the usage line shows. -/
inductive UsageFault where
  | unexpectedArgument (argument : String) (tip : Tip) (used : List Parameter)
  | unexpectedValue (parameter : Parameter) (value : String) (used : List Parameter)
  | missingValue
  | repeated (parameter : Parameter)
deriving DecidableEq

/-- Why no document is converted. -/
inductive Refusal where
  | help
  | fault (usage : UsageFault)
deriving DecidableEq

/-- A parameter whose value may still be missing. -/
inductive Pending where
  | input (value : String)
  | output (value : Option String)
deriving DecidableEq

/-- What the arguments so far have settled, with the parameters in the order in which they were. -/
structure Settings where
  input : Option String
  output : Option String
  used : List Parameter
  pending : Option Pending
  positional : Bool
deriving DecidableEq

namespace Settings

def initial : Settings := ⟨none, none, [], none, false⟩

abbrev Result := Except Refusal

def use (settings : Settings) (parameter : Parameter) : Result Settings :=
  if parameter ∈ settings.used then .error (.fault (.repeated parameter))
  else .ok { settings with used := settings.used ++ [parameter] }

def settle (settings : Settings) : Result Settings :=
  match settings.pending with
  | none => .ok settings
  | some (.input value) => do return { ← settings.use .input with input := some value, pending := none }
  | some (.output none) => .error (.fault .missingValue)
  | some (.output (some value)) => do
    return { ← settings.use .output with output := some value, pending := none }

/-- The settings that a fault in a later argument finds. A value that cannot be settled by then is dropped, and
one that repeats its parameter takes the parameter with it. -/
def abandon (settings : Settings) : Settings :=
  match settings.settle with
  | .ok settled => settled
  | .error (.fault (.repeated parameter)) => { settings with used := settings.used.erase parameter }
  | .error _ => settings

/-- An output given in the same argument as its option. -/
def attach (settings : Settings) (value : String) : Result Settings := do
  return { ← (← settings.settle).use .output with output := some value }

def awaitOutput (settings : Settings) : Result Settings := do
  return { ← settings.settle with pending := some (.output none) }

def raiseVerbosity (settings : Settings) : Result Settings := do (← settings.settle).use .verbose

def askHelp (settings : Settings) : Result Settings := do
  let _ ← settings.settle
  throw .help

def addPositional (settings : Settings) (argument : String) : Result Settings :=
  if settings.positional then .error (.fault (.unexpectedArgument argument .none []))
  else do return { ← settings.settle with pending := some (.input argument), positional := true }

/-- The options' letters, and the rest of the argument as a value where one takes a value. -/
def addShort (settings : Settings) : List Char → Result Settings
  | [] => .ok settings
  | c :: rest =>
    if c = 'v' then do addShort (← settings.raiseVerbosity) rest
    else if c = 'h' then settings.askHelp
    else if c = 'o' then
      match rest with
      | [] => settings.awaitOutput
      | '=' :: value => settings.attach (String.ofList value)
      | value => settings.attach (String.ofList value)
    else .error (.fault (.unexpectedArgument (String.ofList ['-', c]) .separate []))

/-- The options with their long names, in the order in which the help lists them. -/
def longNames : List (String × Parameter) :=
  [("output", .output), ("verbose", .verbose), ("help", .help)]

/-- The similarity from which a name is offered in the place of a misspelt one. -/
def nearness : Similarity := ⟨7, 10⟩

/-- The option whose name is most like a word, the last of those that are equally like it. -/
def similar? (word : String) : Option Parameter :=
  let scored := longNames.map fun entry => (Similarity.ofWords word entry.1, entry.2)
  let near := scored.filter fun entry => entry.1.atLeast nearness
  (near.foldl (fun best entry =>
    match best with
    | some other => if entry.1.atLeast other.1 then some entry else best
    | none => some entry) none).map Prod.snd

def addLong (settings : Settings) (name : String) (value : Option String) : Result Settings :=
  match longNames.lookup name, value with
  | some .output, some value => settings.attach value
  | some .output, none => settings.awaitOutput
  | some parameter, some value =>
    .error (.fault (.unexpectedValue parameter value (settings.used ++ [parameter])))
  | some .help, none => settings.askHelp
  | some _, none => settings.raiseVerbosity
  | none, _ =>
    let argument := "--" ++ name
    let used := settings.abandon.used
    match similar? name with
    | some parameter => .error (.fault (.unexpectedArgument argument (.similar parameter) (used ++ [parameter])))
    | none => .error (.fault (.unexpectedArgument argument .separate used))

/-- An argument that begins with no hyphen, or is nothing but one. -/
def addPlain (settings : Settings) (argument : String) : Result Settings :=
  match settings.pending with
  | some (.output none) => .ok { settings with pending := some (.output (some argument)) }
  | _ => settings.addPositional argument

def add (settings : Settings) (argument : String) : Result Settings :=
  match argument.toList with
  | '-' :: '-' :: word =>
    let name := String.ofList (word.takeWhile (· != '='))
    match word.dropWhile (· != '=') with
    | [] => settings.addLong name none
    | _ :: value => settings.addLong name (some (String.ofList value))
  | '-' :: c :: letters => settings.addShort (c :: letters)
  | _ => settings.addPlain argument

/-- After a bare `--` every argument is positional. -/
def addAll (settings : Settings) : List String → Result Settings
  | [] => settings.settle
  | argument :: rest =>
    if argument = "--" then do (← rest.foldlM addPositional settings).settle
    else do addAll (← settings.add argument) rest

end Settings

def Invocation.ofArguments (arguments : List String) : Except Refusal Invocation := do
  let settings ← Settings.initial.addAll arguments
  return ⟨settings.input.getD "-", settings.output, .verbose ∈ settings.used⟩

end ChefDsl.CommandLine
