import SdkBlueprint.Document.Json.Reader
import SdkBlueprint.Environment
import SdkBlueprint.Settings
import SdkBlueprint.Text.Blank
import SdkBlueprint.Text.Parts

/-! Settings from layers: the command line, then variables, then the project file,
then the defaults. A layer sets single fields, and each field comes from the first
layer that sets it. -/
namespace SdkBlueprint.Settings
open SdkBlueprint.Document

abbrev Layer := List (Scalar × Value)

structure Flags where
  reservedSuffix : Option String
  defaultTag : Option String
  serviceSuffix : Option String

def Flags.none : Flags := ⟨.none, .none, .none⟩

def setText (field : String) : Option String → Layer
  | some s => [(.text field, .text s)]
  | none => []

def Flags.layer (f : Flags) : Layer :=
  setText "reserved_suffix" f.reservedSuffix ++ setText "default_tag" f.defaultTag ++
    setText "service_suffix" f.serviceSuffix

/-- Words between commas, trimmed; empty ones do not count. -/
def wordList (text : String) : List String :=
  ((Text.parts ',' text.toList).map Text.trimChars).filterMap fun cs =>
    if cs.isEmpty then none else some (String.ofList cs)

def variableLayer (e : Environment) : Layer :=
  setText "reserved_suffix" (e.valueOf? "SPECIR_RESERVED_SUFFIX") ++
    setText "default_tag" (e.valueOf? "SPECIR_DEFAULT_TAG") ++
    setText "service_suffix" (e.valueOf? "SPECIR_SERVICE_SUFFIX") ++
    (match e.valueOf? "SPECIR_EXTRA_RESERVED_WORDS" with
      | some text => [(.text "extra_reserved_words", .list ((wordList text).map .text))]
      | none => [])

def projectFileName : String := "specir.json"

/-- The project file of a folder, by default of the working folder. -/
def projectFile (folder : Option String) : FilePath :=
  match folder with
  | some text => (FilePath.ofText text).child projectFileName
  | none => ⟨false, [projectFileName]⟩

def projectFileLabel (e : Environment) (folder : Option String) : String :=
  match folder with
  | some _ => (projectFile folder).text
  | none => e.workingFolder ++ "/" ++ projectFileName

def parseProject (label text : String) : Attempt Layer :=
  match Json.read text with
  | .ok (.map entries) => .ok entries
  | .ok _ => .error (.settings (.malformed label "expected a JSON object"))
  | .error (.malformed reason) => .error (.settings (.malformed label reason))
  | .error .longInteger => misuse .badValue

/-- What the project file sets; none if there is no such file. -/
def projectLayer? (e : Environment) (folder : Option String) : Attempt (Option Layer) := do
  match ← e.text? (projectFile folder) with
  | some text => return some (← parseProject (projectFileLabel e folder) text)
  | none => return none

/-- The layers as one, from the lowest to the highest. -/
def merged (layers : List Layer) : Value := .map (Value.mapOf layers.flatten)

def ofLayers (layers : List Layer) : Attempt Settings :=
  match check (merged layers) with
  | .ok s => .ok s
  | .error faults => .error (.settings (.invalid faults))

def resolve (e : Environment) (flags : Flags) (folder : Option String) : Attempt Settings := do
  let project ← projectLayer? e folder
  ofLayers [project.getD [], variableLayer e, flags.layer]

end SdkBlueprint.Settings
