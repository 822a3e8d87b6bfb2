/-! Arguments of a command line: options, which begin with a dash, among the
operands. After two dashes everything is an operand. -/
namespace SdkBlueprint.CommandLine

inductive UsageProblem where
  | unknownOption (name : String)
  | missingValue (name : String)
  | unwantedValue (name : String)
  | badValue (name value : String)
  | missingOperand (name : String)
  | extraOperands (operands : List String)
  | unknownCommand (name : String)
  | missingCommand
  deriving DecidableEq

/-- An option that a command knows, by a name of its own. -/
structure OptionSpec (α : Type) where
  option : α
  /-- Names after two dashes, or of one character after one dash. -/
  names : List String
  takesValue : Bool

structure Given (α : Type) where
  option : α
  value : Option String

structure Arguments (α : Type) where
  given : List (Given α)
  operands : List String

def Arguments.addOperand {α : Type} (s : String) (a : Arguments α) : Arguments α :=
  { a with operands := s :: a.operands }

section
variable {α : Type}

def spec? (specs : List (OptionSpec α)) (name : String) : Option (OptionSpec α) :=
  specs.find? fun s => s.names.contains name

def splitValue (arg : String) : String × Option String :=
  let cs := arg.toList
  match cs.dropWhile (· != '=') with
  | [] => (arg, none)
  | _ :: value => (String.ofList (cs.takeWhile (· != '=')), some (String.ofList value))

/-- What a cluster of short options comes to: flags, and perhaps an option with a
value, which is the rest of the cluster or the next argument. -/
inductive Cluster (α : Type) where
  | done (flags : List (Given α))
  | wants (flags : List (Given α)) (option : OptionSpec α) (value : Option String)

def cluster (specs : List (OptionSpec α)) : List Char → Except UsageProblem (Cluster α)
  | [] => .ok (.done [])
  | c :: rest =>
    let name := String.ofList ['-', c]
    match spec? specs name with
    | none => .error (.unknownOption name)
    | some s =>
      if s.takesValue then
        .ok (.wants [] s (if rest.isEmpty then none else some (String.ofList rest)))
      else
        (cluster specs rest).map fun
          | .done flags => .done (⟨s.option, none⟩ :: flags)
          | .wants flags o value => .wants (⟨s.option, none⟩ :: flags) o value

def addAll (flags : List (Given α)) (a : Arguments α) : Arguments α :=
  { a with given := flags ++ a.given }

def isOption (arg : String) : Bool := arg.toList.head? == some '-' && arg != "-"

inductive Reading (α : Type) where
  | flags (flags : List (Given α))
  | value (flags : List (Given α)) (option : OptionSpec α) (value : Option String)

/-- A name is looked up whole, before it is taken for a cluster. -/
def readOption (specs : List (OptionSpec α)) (arg : String) : Except UsageProblem (Reading α) :=
  let (name, value) := splitValue arg
  match (specs.find? fun s => s.names.contains name && "--".toList.isPrefixOf name.toList) with
  | some s =>
    if s.takesValue then .ok (.value [] s value)
    else if value.isSome then .error (.unwantedValue name)
    else .ok (.flags [⟨s.option, none⟩])
  | none =>
    if "--".toList.isPrefixOf arg.toList then .error (.unknownOption name)
    else
      (cluster specs (arg.toList.drop 1)).map fun
        | .done flags => .flags flags
        | .wants flags o value => .value flags o value

/-- Reads arguments. Where options do not mix with operands, the first operand ends
them. -/
def parse (specs : List (OptionSpec α)) (mixed : Bool) :
    List String → Except UsageProblem (Arguments α)
  | [] => .ok ⟨[], []⟩
  | arg :: rest =>
    if arg == "--" then .ok ⟨[], rest⟩
    else if isOption arg then do
      match ← readOption specs arg with
      | .flags flags => return addAll flags (← parse specs mixed rest)
      | .value flags o (some value) =>
        return addAll (flags ++ [⟨o.option, some value⟩]) (← parse specs mixed rest)
      | .value flags o none =>
        match rest with
        | [] => .error (.missingValue (o.names.head?.getD ""))
        | value :: rest =>
          return addAll (flags ++ [⟨o.option, some value⟩]) (← parse specs mixed rest)
    else if mixed then return (← parse specs mixed rest).addOperand arg
    else .ok ⟨[], arg :: rest⟩

end

namespace Arguments
variable {α : Type} [DecidableEq α]

def has (a : Arguments α) (option : α) : Bool := a.given.any fun g => decide (g.option = option)

/-- Of an option that is given more than once, the last value counts. -/
def value? (a : Arguments α) (option : α) : Option String :=
  ((a.given.filter fun g => decide (g.option = option)).getLast?).bind Given.value

end Arguments
end SdkBlueprint.CommandLine
