import ChefDsl.CommandLine.Run

/-! The command as a process: it looks up the input, lets the library decide, and carries the decision out. -/

namespace ChefDsl.CommandLine

def problemOf : IO.Error → Problem
  | .noFileOrDirectory _ _ _ => .missing
  | .inappropriateType _ 20 _ => .notDirectory
  | .inappropriateType _ _ _ => .isDirectory
  | .permissionDenied _ code details => .other s!"{details} (os error {code})"
  | .resourceExhausted _ code details => .other s!"{details} (os error {code})"
  | .invalidArgument _ code details => .other s!"{details} (os error {code})"
  | error => .other (toString error)

def attempt {α : Type} (action : IO α) : IO (Except Problem α) := do
  try return .ok (← action)
  catch error => return .error (problemOf error)

def readInput (input : String) : IO (Except Problem ByteArray) :=
  attempt do
    if input = "-" then (← IO.getStdin).readBinToEnd
    else (← IO.FS.Handle.mk input .read).readBinToEnd

def failed (failure : Failure) : IO UInt32 := do
  (← IO.getStderr).putStr failure.report
  return 1

def deliverOutput (output : Option String) (source : Text) : IO UInt32 := do
  match output with
  | none =>
    match ← attempt do (← IO.getStdout).putStr (delivered source) with
    | .ok () => return 0
    | .error problem =>
      (← IO.getStderr).putStr problem.printing
      return 101
  | some path =>
    match ← attempt (IO.FS.writeFile path (delivered source)) with
    | .ok () => return 0
    | .error problem => failed (.write path problem)

def convert (invocation : Invocation) : IO UInt32 := do
  let filter := Filter.choose invocation.verbose (← IO.getEnv "RUST_LOG")
  let conversion := Conversion.ofContent invocation.input (← readInput invocation.input)
  (← IO.getStderr).putStr (filter.lines conversion.events)
  match conversion.result with
  | .error failure => failed failure
  | .ok source => deliverOutput invocation.output source

def refuse (refusal : Refusal) : IO UInt32 := do
  let outcome := refusal.outcome [] .calm
  (← IO.getStdout).write outcome.standardOutput
  (← IO.getStderr).putStr outcome.standardError
  return UInt32.ofNat outcome.status

end ChefDsl.CommandLine

open ChefDsl.CommandLine in
def main (arguments : List String) : IO UInt32 :=
  match Invocation.ofArguments arguments with
  | .ok invocation => convert invocation
  | .error refusal => refuse refusal
