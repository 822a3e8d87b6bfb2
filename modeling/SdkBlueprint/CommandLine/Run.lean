import SdkBlueprint.Blueprint.Json
import SdkBlueprint.CommandLine.Request
import SdkBlueprint.CommandLine.Summary
import SdkBlueprint.Conversion
import SdkBlueprint.Document.Json.Writer
import SdkBlueprint.Source.Basic

/-! Runs of the commands. A run ends with an exit code and with what it has written.
Conversion writes its result last, after all checks. -/
namespace SdkBlueprint.CommandLine
open SdkBlueprint.Console SdkBlueprint.Document

structure Outcome where
  exitCode : Nat
  output : Output

def shownLevel (common : Common) (verbose : Bool) : Option Level :=
  if verbose then some .debug else if common.quiet then none else some .warning

def checkOutput (e : Environment) (output : Option FilePath) : Attempt Unit :=
  match output with
  | none => .ok ()
  | some path =>
    if e.isFolder path then .error (.usage (.outputIsDirectory path.text))
    else if e.isFolder path.parent then .ok ()
    else .error (.usage (.outputFolderMissing path.parent.text))

def produce (e : Environment) (flags : Settings.Flags) (source : String) : Logged Blueprint := do
  let settings ← Logged.attempt (Settings.resolve e flags none)
  let document ← Source.load e source
  let _ ← Source.checkVersion document
  convert settings document

/-- Failures that no check expects are reported as such. -/
def report (f : Failure) : String :=
  match f.category? with
  | some _ => f.message
  | none => "Unexpected error: " ++ f.message

def finish (p : Printer) (steps : Printing Nat) : Outcome :=
  match steps.run .empty with
  | (.ok code, output) => ⟨code, output⟩
  | (.error f, output) => ⟨f.exitCode, ((p.error (report f)).run output).2⟩

def strictMessage (count : Nat) : String :=
  s!"{count} warning(s) reported in strict mode; no output written."

def warningMessage (count : Nat) : String := s!"{count} warning(s) reported during conversion."

def writtenMessage (b : Blueprint) (path : FilePath) : String :=
  let models := b.models.length
  let services := b.services.length
  let target := path.text
  s!"Wrote {models} models and {services} services to {target}"

/-- No indentation means a single line. -/
def outputLayout (indent : Nat) : Json.Layout := ⟨false, if indent == 0 then none else some indent⟩

def payload (indent : Nat) (b : Blueprint) : String := Json.write (outputLayout indent) b.toValue

/-- The payload, unless a parameter cannot be written. -/
def payload? (indent : Nat) (b : Blueprint) : Attempt String :=
  Json.written (outputLayout indent) b.toValue

/-- Shows the journal of a conversion and passes its result on. -/
def converted (p : Printer) (common : Common) (verbose : Bool) (steps : Logged Blueprint) :
    Printing (Blueprint × Journal) := do
  let (result, journal) := steps.run []
  p.journal (shownLevel common verbose) journal
  return (← attempt result, journal)

def convertSteps (e : Environment) (p : Printer) (common : Common) (r : ConvertRequest) :
    Printing Nat := do
  attempt (checkOutput e r.output)
  let (b, journal) ← converted p common r.verbose (produce e r.flags r.source)
  let warnings := journal.warnings.length
  if r.strict && 0 < warnings then
    p.error (strictMessage warnings)
    return strictExitCode
  else
    Printer.data (← attempt (payload? r.indent b)) r.output
    if 0 < warnings then p.warning (warningMessage warnings)
    match r.output with
    | some path => p.success (writtenMessage b path)
    | none => pure ()
    return 0

def summarySteps (e : Environment) (p : Printer) (common : Common) (r : SummaryRequest) :
    Printing Nat := do
  let (b, journal) ← converted p common r.verbose (produce e .none r.source)
  showSummary p b journal
  return 0

def Common.printer (e : Environment) (c : Common) : Printer :=
  .ofEnvironment e c.noColour c.quiet

def runConvert (e : Environment) (common : Common) (r : ConvertRequest) : Outcome :=
  let p := common.printer e
  finish p (convertSteps e p common r)

def runSummary (e : Environment) (common : Common) (r : SummaryRequest) : Outcome :=
  let p := common.printer e
  finish p (summarySteps e p common r)

end SdkBlueprint.CommandLine
