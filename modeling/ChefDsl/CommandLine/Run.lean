import ChefDsl.CommandLine.Directory
import ChefDsl.CommandLine.Filter
import ChefDsl.CommandLine.Usage

/-! A run of the command. The document is read, loaded and rendered before anything is written, and the log
takes no part in it. Standard error takes all that is written to it. -/

namespace ChefDsl.CommandLine

/-- What stopped a conversion, and where. -/
inductive Failure where
  | read (input : String) (problem : Problem)
  | load (input : String) (error : Error)
  | render (entity : Entity) (error : Error)
  | write (path : String) (problem : Problem)

namespace Failure

def context : Failure → String
  | read input _ => if input = "-" then "Failed to read document from stdin" else s!"Failed to read {input}"
  | load input _ => s!"Failed to load entity from {input}"
  | render entity _ => s!"Failed to render {entity.kind.name} {entity.name}"
  | write path _ => s!"Failed to write {path}"

/-- From the nearest cause to the farthest. -/
def causesOf : Error → List String
  | .json error => [(Error.json error).message, error.message]
  | error => [error.message]

def causes : Failure → List String
  | read _ problem | write _ problem => [problem.message]
  | load _ error | render _ error => causesOf error

/-- Every line of a cause stands to the right of its number. -/
def hang (lead : String) (cause : String) : String :=
  let indent := List.replicate lead.length ' '
  String.ofList (lead.toList ++ cause.toList.flatMap fun c => if c = '\n' then '\n' :: indent else [c])

def causeLines : List String → List String
  | [cause] => [hang "    " cause]
  | causes => causes.zipIdx.map fun entry => hang s!"    {entry.2}: " entry.1

def report (failure : Failure) : String :=
  s!"Error: {failure.context}\n\nCaused by:\n" ++
    String.join ((causeLines failure.causes).map fun line => line ++ "\n")

end Failure

/-- What became of a document, with the events on the way. -/
structure Conversion where
  events : List Event
  result : Except Failure Text

namespace Conversion

def detection (document : Json) : List Event :=
  match document with
  | .object entries => ((Document.marker? entries).map Event.detected).toList
  | _ => []

def renderEvents (entity : Entity) (source : Text) : List Event :=
  (match entity with
    | .role role => [.emitting role]
    | .environment _ => []) ++ [.rendered entity source]

def ofEntity (entity : Entity) : Conversion :=
  match entity.source with
  | .ok source => ⟨.loaded entity :: renderEvents entity source, .ok source⟩
  | .error error => ⟨[.loaded entity], .error (.render entity error)⟩

def ofText (input : String) (text : String) : Conversion :=
  match Document.parse text with
  | .error error => ⟨[], .error (.load input error)⟩
  | .ok document =>
    match Document.load document with
    | .error error => ⟨detection document, .error (.load input error)⟩
    | .ok entity =>
      let conversion := ofEntity entity
      ⟨detection document ++ conversion.events, conversion.result⟩

/-- Converts what was read from the input. -/
def ofContent (input : String) (content : Except Problem ByteArray) : Conversion :=
  match content with
  | .error problem => ⟨[], .error (.read input problem)⟩
  | .ok bytes =>
    match String.fromUTF8? bytes with
    | some text => ofText input text
    | none => ⟨[], .error (.read input .invalidText)⟩

end Conversion

/-- What a run leaves behind. -/
structure Outcome where
  status : Nat
  standardOutput : ByteArray
  standardError : String
  directory : Directory

/-- Whether the help gets through makes no difference. -/
def Refusal.outcome (refusal : Refusal) (directory : Directory) (disturbance : Disturbance) : Outcome :=
  match refusal with
  | .help => ⟨0, (disturbance.take helpText.toUTF8).2, "", directory⟩
  | .fault usage => ⟨2, .empty, usage.report, directory⟩

/-- The text with the newline that ends it in a file or on a terminal. -/
def delivered (source : Text) : String := String.ofList (source ++ ['\n'])

/-- What is said of standard output that fails, without the place in the program. -/
def Problem.printing (problem : Problem) : String := s!"failed printing to stdout: {problem.message}\n"

/-- A file that cannot be written is a failure like any other. Standard output that fails ends the program at once. -/
def deliver (output : Option String) (source : Text) (directory : Directory) (disturbance : Disturbance)
    (log : String) : Outcome :=
  let content := (delivered source).toUTF8
  match output with
  | none =>
    match disturbance.take content with
    | (.ok (), taken) => ⟨0, taken, log, directory⟩
    | (.error problem, taken) => ⟨101, taken, log ++ problem.printing, directory⟩
  | some path =>
    match directory.write path content disturbance with
    | (.ok (), after) => ⟨0, .empty, log, after⟩
    | (.error problem, after) => ⟨1, .empty, log ++ (Failure.write path problem).report, after⟩

/-- The bytes of the input, if they can be read to their end. -/
def Invocation.content (invocation : Invocation) (standardInput : ByteArray) (directory : Directory)
    (disturbance : Disturbance) : Except Problem ByteArray :=
  match disturbance.reading with
  | some problem => .error problem
  | none => if invocation.input = "-" then .ok standardInput else directory.read invocation.input

def Invocation.run (invocation : Invocation) (standardInput : ByteArray) (directory : Directory)
    (disturbance : Disturbance) (filter : Option String) : Outcome :=
  let content := invocation.content standardInput directory disturbance
  let conversion := Conversion.ofContent invocation.input content
  let log := (Filter.choose invocation.verbose filter).lines conversion.events
  match conversion.result with
  | .ok source => deliver invocation.output source directory disturbance log
  | .error failure => ⟨1, .empty, log ++ failure.report, directory⟩

def run (arguments : List String) (standardInput : ByteArray) (directory : Directory) (disturbance : Disturbance)
    (filter : Option String) : Outcome :=
  match Invocation.ofArguments arguments with
  | .ok invocation => invocation.run standardInput directory disturbance filter
  | .error refusal => refusal.outcome directory disturbance

end ChefDsl.CommandLine
