import SdkBlueprint.CommandLine.Run

/-! The program as a function of its arguments and surroundings. -/
namespace SdkBlueprint.CommandLine
open SdkBlueprint.Console

def programName : String := "specir"

def versionText : String := programName ++ " 0.1.0"

def optionLine (names text : String) : String := "  " ++ names ++ "  " ++ text ++ "\n"

def helpText : Topic → String
  | .program =>
    "Usage: " ++ programName ++ " [OPTIONS] COMMAND [ARGS]...\n\n" ++
    "Convert OpenAPI 3.0/3.1 documents into an SDK intermediate representation.\n\n" ++
    optionLine "--version" "Show version and exit." ++
    optionLine "--no-color" "Disable color output." ++
    optionLine "-q, --quiet" "Only report warnings and errors." ++
    optionLine "--help" "Show this message and exit." ++ "\n" ++
    optionLine "convert" "Convert an OpenAPI document and print the IR as JSON." ++
    optionLine "summary" "Print the models and operations a document converts to."
  | .convert =>
    "Usage: " ++ programName ++ " convert [OPTIONS] SPEC\n\n" ++
    "Convert an OpenAPI document and print the IR as JSON.\n\n" ++
    optionLine "-o, --output FILE" "Write the IR to this file instead of stdout." ++
    optionLine "--indent INTEGER" "JSON indentation (0 for compact)." ++
    optionLine "--reserved-suffix TEXT" "Suffix for model names that are reserved words." ++
    optionLine "--default-tag TEXT" "Tag for operations that declare none." ++
    optionLine "--service-suffix TEXT" "Suffix appended to every service name." ++
    optionLine "--strict" "Fail with exit code 9 if the conversion reports warnings." ++
    optionLine "-v, --verbose" "Enable debug output." ++
    optionLine "--help" "Show this message and exit."
  | .summary =>
    "Usage: " ++ programName ++ " summary [OPTIONS] SPEC\n\n" ++
    "Print the models and operations a document converts to.\n\n" ++
    optionLine "-v, --verbose" "Enable debug output." ++
    optionLine "--help" "Show this message and exit."

def UsageProblem.message : UsageProblem → String
  | .unknownOption name => s!"No such option: {name}"
  | .missingValue name => s!"Option '{name}' requires an argument."
  | .unwantedValue name => s!"Option '{name}' does not take a value."
  | .badValue name value => s!"Invalid value for '{name}': '{value}' is not allowed."
  | .missingOperand name => s!"Missing argument '{name}'."
  | .extraOperands operands =>
    let all := " ".intercalate operands
    s!"Got unexpected extra arguments ({all})"
  | .unknownCommand name => s!"No such command '{name}'."
  | .missingCommand => "Missing command."

def usageExitCode : Nat := Category.usage.exitCode

/-- Outcome of a run that only writes a text to the output. -/
def shown (exitCode : Nat) (text : String) : Outcome :=
  ⟨exitCode, { Output.empty with stdout := text }⟩

def refused (problem : UsageProblem) : Outcome :=
  let message := problem.message
  ⟨usageExitCode, { Output.empty with stderr := s!"Usage error: {message}\n" }⟩

def perform (e : Environment) : Request → Outcome
  | .help topic => shown 0 (helpText topic)
  | .bare => shown usageExitCode (helpText .program)
  | .version => shown 0 (versionText ++ "\n")
  | .convert common r => runConvert e common r
  | .summary common r => runSummary e common r

def run (e : Environment) (args : List String) : Outcome :=
  match request args with
  | .ok r => perform e r
  | .error problem => refused problem

end SdkBlueprint.CommandLine
