import SdkBlueprint.CommandLine.Arguments
import SdkBlueprint.Settings.Layers
import SdkBlueprint.Text.Blank

/-! What a command line asks for. -/
namespace SdkBlueprint.CommandLine

inductive CommonOption where
  | version
  | noColour
  | quiet
  | help
  deriving DecidableEq

def commonOptions : List (OptionSpec CommonOption) :=
  [⟨.version, ["--version"], false⟩, ⟨.noColour, ["--no-color"], false⟩,
   ⟨.quiet, ["--quiet", "-q"], false⟩, ⟨.help, ["--help"], false⟩]

inductive CommandOption where
  | output
  | indent
  | reservedSuffix
  | defaultTag
  | serviceSuffix
  | strict
  | verbose
  | help
  deriving DecidableEq

def summaryOptions : List (OptionSpec CommandOption) :=
  [⟨.verbose, ["--verbose", "-v"], false⟩, ⟨.help, ["--help"], false⟩]

def convertOptions : List (OptionSpec CommandOption) :=
  [⟨.output, ["--output", "-o"], true⟩, ⟨.indent, ["--indent"], true⟩,
   ⟨.reservedSuffix, ["--reserved-suffix"], true⟩, ⟨.defaultTag, ["--default-tag"], true⟩,
   ⟨.serviceSuffix, ["--service-suffix"], true⟩, ⟨.strict, ["--strict"], false⟩] ++
  summaryOptions

inductive Topic where
  | program
  | convert
  | summary
  deriving DecidableEq

structure Common where
  noColour : Bool
  quiet : Bool

structure ConvertRequest where
  source : String
  output : Option FilePath
  indent : Nat
  flags : Settings.Flags
  strict : Bool
  verbose : Bool

structure SummaryRequest where
  source : String
  verbose : Bool

inductive Request where
  | help (topic : Topic)
  /-- Without arguments help is shown, but the run does not count as a success. -/
  | bare
  | version
  | convert (common : Common) (request : ConvertRequest)
  | summary (common : Common) (request : SummaryRequest)

def decimalDigits? (value : Nat) : List Char → Option Nat
  | [] => some value
  | '_' :: c :: rest =>
    if c.isDigit then decimalDigits? (value * 10 + (c.toNat - '0'.toNat)) rest else none
  | c :: rest =>
    if c.isDigit then decimalDigits? (value * 10 + (c.toNat - '0'.toNat)) rest else none

/-- A number that is not negative, with blanks around it and perhaps a sign. -/
def number? (text : String) : Option Nat :=
  let cs := Text.trimChars text.toList
  let negative := cs.head? == some '-'
  let body := if negative || cs.head? == some '+' then cs.drop 1 else cs
  if body.head?.any Char.isDigit then
    (decimalDigits? 0 body).filter fun n => n == 0 || !negative
  else none

def defaultIndent : Nat := 2

def indentOf (a : Arguments CommandOption) : Except UsageProblem Nat :=
  match a.value? .indent with
  | none => .ok defaultIndent
  | some text =>
    match number? text with
    | some n => .ok n
    | none => .error (.badValue "--indent" text)

def sourceOf (a : Arguments CommandOption) : Except UsageProblem String :=
  match a.operands with
  | [] => .error (.missingOperand "SPEC")
  | [source] => .ok source
  | _ :: extra => .error (.extraOperands extra)

def convertRequest (common : Common) (a : Arguments CommandOption) :
    Except UsageProblem Request := do
  if a.has .help then return .help .convert
  let indent ← indentOf a
  let source ← sourceOf a
  return .convert common
    { source := source
      output := (a.value? .output).map FilePath.ofText
      indent := indent
      flags := ⟨a.value? .reservedSuffix, a.value? .defaultTag, a.value? .serviceSuffix⟩
      strict := a.has .strict
      verbose := a.has .verbose }

def summaryRequest (common : Common) (a : Arguments CommandOption) :
    Except UsageProblem Request := do
  if a.has .help then return .help .summary
  return .summary common ⟨← sourceOf a, a.has .verbose⟩

def command (common : Common) : List String → Except UsageProblem Request
  | [] => .error .missingCommand
  | name :: rest =>
    if name == "convert" then do convertRequest common (← parse convertOptions true rest)
    else if name == "summary" then do summaryRequest common (← parse summaryOptions true rest)
    else .error (.unknownCommand name)

/-- The first of help and version counts, before any command. -/
def request (args : List String) : Except UsageProblem Request :=
  if args.isEmpty then .ok .bare
  else do
    let a ← parse commonOptions false args
    match a.given.find? fun g => g.option == .help || g.option == .version with
    | some g => return if g.option == .help then .help .program else .version
    | none => command ⟨a.has .noColour, a.has .quiet⟩ a.operands

end SdkBlueprint.CommandLine
