import ChefDsl.CommandLine.Arguments
import ChefDsl.Text.Visible

/-! What the command tells about its own use. -/

namespace ChefDsl.CommandLine

/-- The parameter as usage lines and messages show it. -/
def Parameter.usage : Parameter → String
  | input => "[input]"
  | output => "--output <output>"
  | verbose => "--verbose"
  | help => "--help"

/-- The option by its long name alone. -/
def Parameter.option : Parameter → String
  | output => "--output"
  | parameter => parameter.usage

/-- The general form, or what is in use where there is something. A given input is no longer optional. -/
def usage (used : List Parameter) : String :=
  let options := (used.filter (· != .input)).eraseDups
  let shown := if used.isEmpty then ["[OPTIONS]"] else options.map Parameter.usage
  let input := if .input ∈ used then "<input>" else Parameter.input.usage
  " ".intercalate (["chef-rb"] ++ shown ++ [input])

/-- An argument as a message quotes it: nothing in it can act on the terminal. -/
def quoted (argument : String) : String := s!"'{String.ofList (Text.visible argument.toList)}'"

def UsageFault.message : UsageFault → String
  | unexpectedArgument argument _ _ => s!"unexpected argument {quoted argument} found"
  | unexpectedValue parameter value _ =>
    s!"unexpected value {quoted value} for '{parameter.usage}' found; no more were expected"
  | missingValue => s!"a value is required for '{Parameter.output.usage}' but none was supplied"
  | repeated parameter => s!"the argument '{parameter.usage}' cannot be used multiple times"

def UsageFault.tip? : UsageFault → Option String
  | unexpectedArgument _ (.similar option) _ => some s!"a similar argument exists: '{option.option}'"
  | unexpectedArgument argument .separate _ =>
    let separated := quoted ("-- " ++ argument)
    some s!"to pass {quoted argument} as a value, use {separated}"
  | _ => none

def UsageFault.usage? : UsageFault → Option String
  | unexpectedArgument _ _ used | unexpectedValue _ _ used => some (usage used)
  | repeated _ => some (usage [])
  | missingValue => none

def UsageFault.report (fault : UsageFault) : String :=
  let tip := (fault.tip?.map fun tip => s!"  tip: {tip}\n\n").getD ""
  let form := (fault.usage?.map fun form => s!"Usage: {form}\n\n").getD ""
  s!"error: {fault.message}\n\n{tip}{form}For more information, try '--help'.\n"

def helpText : String := "\n".intercalate [
  "Convert Chef role and environment JSON to Ruby DSL",
  "",
  s!"Usage: {usage []}",
  "",
  "Arguments:",
  "  [input]  Role or environment JSON file, or - for stdin [default: -]",
  "",
  "Options:",
  "  -o, --output <output>  Write the DSL to this file instead of stdout",
  "  -v, --verbose          Log debug output to stderr",
  "  -h, --help             Print help",
  ""]

end ChefDsl.CommandLine
