/-! Why a run ends without a result, by cause. The wording is in one place, and so
is the exit code of every category. -/
namespace SdkBlueprint

inductive Complaint where
  | notText
  | tooShort
  | notList
  | missing
  | unknownName
  | notInteger
  | notFloat
  deriving DecidableEq

structure FieldFault where
  field : String
  complaint : Complaint
  deriving DecidableEq

inductive RecordKind where
  | settings
  | simpleType
  | validator
  | discriminator
  | property
  | model
  | parameter
  | operation
  | info
  | diagnostic
  deriving DecidableEq

inductive DocumentFailure where
  | notFound (path : String)
  | emptyFile (path : String)
  | emptyInput
  | httpStatus (code : Int) (url : String)
  | unreachable (url reason : String)
  | invalidJson (origin reason : String)
  | unparsable (origin : String) (jsonReason : Option String) (yamlReason : String)
  | notObject (origin kind : String)
  | swagger (version : String)
  | noVersion
  | unsupportedVersion (version : String)
  deriving DecidableEq

inductive SettingsFailure where
  | malformed (path reason : String)
  | invalid (faults : List FieldFault)
  deriving DecidableEq

inductive UsageFailure where
  | outputIsDirectory (path : String)
  | outputFolderMissing (path : String)
  deriving DecidableEq

/-- Mistakes in the shape of a value that no check catches before it is used. -/
inductive Misuse where
  /-- Fields are looked up on a value that has none. -/
  | noFields
  /-- A value of another sort is iterated, measured, indexed, used as a key or read as text. -/
  | wrongKind
  /-- A key is looked up that is not there. -/
  | missingKey
  /-- A position is beyond the end of a list. -/
  | outOfRange
  /-- A value of the right sort is none of those allowed. -/
  | badValue
  /-- Bytes are no UTF-8 text. -/
  | badEncoding
  /-- A closing tag of markup has no opening one. -/
  | unmatchedTag
  deriving DecidableEq

inductive Failure where
  | misuse (cause : Misuse)
  | invalid (record : RecordKind) (faults : List FieldFault)
  | circular (schema reference : String)
  | document (cause : DocumentFailure)
  | settings (cause : SettingsFailure)
  | usage (cause : UsageFailure)
  deriving DecidableEq

inductive Category where
  | general
  | usage
  | document
  | circular
  | settings
  deriving DecidableEq

def Category.exitCode : Category → Nat
  | .general => 1
  | .usage => 2
  | .document => 7
  | .circular => 8
  | .settings => 1

/-- Exit code of a run that is refused for its warnings. -/
def strictExitCode : Nat := 9

def Failure.category? : Failure → Option Category
  | .misuse _ => none
  | .invalid _ _ => none
  | .circular _ _ => some .circular
  | .document _ => some .document
  | .settings _ => some .settings
  | .usage _ => some .usage

def Failure.exitCode (f : Failure) : Nat :=
  (f.category?.getD .general).exitCode

def circularMessage (schema reference : String) : String :=
  s!"Circular allOf dependency detected: '{schema}' references '{reference}'."

def DocumentFailure.headline : DocumentFailure → String
  | .notFound path => s!"Document not found: {path}"
  | .emptyFile path => s!"Document is empty: {path}"
  | .emptyInput => "No input received from stdin"
  | .httpStatus code url => s!"HTTP {code} fetching document from {url}"
  | .unreachable url reason => s!"Failed to fetch document from {url}: {reason}"
  | .invalidJson origin reason => s!"Invalid JSON in {origin}: {reason}"
  | .unparsable origin jsonReason _ =>
    let json := match jsonReason with
      | some reason => s!"\n  JSON error: {reason}"
      | none => ""
    s!"Failed to parse {origin} as JSON or YAML{json}\n  YAML error"
  | .notObject origin kind => s!"{origin} must contain a JSON/YAML object (got {kind})"
  | .swagger version =>
    s!"Swagger {version} is not supported; convert the document to OpenAPI 3.x first."
  | .noVersion => "Missing 'openapi' field. Is this an OpenAPI 3.x document?"
  | .unsupportedVersion version =>
    s!"Unsupported OpenAPI version: {version}. Only 3.x documents are supported."

def SettingsFailure.headline : SettingsFailure → String
  | .malformed path reason => s!"Invalid project config at {path}: {reason}"
  | .invalid _ => "Invalid converter configuration"

def UsageFailure.message : UsageFailure → String
  | .outputIsDirectory path => s!"Output path is a directory: {path}"
  | .outputFolderMissing path => s!"Output directory does not exist: {path}"

def Complaint.message : Complaint → String
  | .notText => "should be a text"
  | .tooShort => "should not be empty"
  | .notList => "should be a list"
  | .missing => "is required"
  | .unknownName => "is none of the allowed names"
  | .notInteger => "should be an integer"
  | .notFloat => "should be a number"

def faultLines (faults : List FieldFault) : String :=
  String.join (faults.map fun f => s!"\n  {f.field} {f.complaint.message}")

def RecordKind.label : RecordKind → String
  | .settings => "settings"
  | .simpleType => "type"
  | .validator => "validator"
  | .discriminator => "discriminator"
  | .property => "property"
  | .model => "model"
  | .parameter => "parameter"
  | .operation => "operation"
  | .info => "info"
  | .diagnostic => "diagnostic"

def invalidMessage (record : RecordKind) (faults : List FieldFault) : String :=
  let count := faults.length
  let noun := if count == 1 then "error" else "errors"
  s!"{count} validation {noun} for {record.label}{faultLines faults}"

def Misuse.message : Misuse → String
  | .noFields => "fields are looked up on a value that has none"
  | .wrongKind => "a value is of the wrong kind"
  | .missingKey => "a key is missing"
  | .outOfRange => "a position is out of range"
  | .badValue => "a value is not allowed"
  | .badEncoding => "bytes are no UTF-8 text"
  | .unmatchedTag => "a closing tag has no opening one"

/-- The message without the reasons that a reader of a format adds to it. -/
def Failure.headline : Failure → String
  | .misuse cause => cause.message
  | .invalid record faults => invalidMessage record faults
  | .circular schema reference => circularMessage schema reference
  | .document cause => cause.headline
  | .settings cause => cause.headline
  | .usage cause => cause.message

def Failure.message : Failure → String
  | .document (.unparsable origin json reason) =>
    let headline := (DocumentFailure.unparsable origin json reason).headline
    s!"{headline}: {reason}"
  | .settings (.invalid faults) =>
    let summary := invalidMessage .settings faults
    s!"Invalid converter configuration: {summary}"
  | f => f.headline

abbrev Attempt (α : Type) := Except Failure α

def misuse {α : Type} (cause : Misuse) : Attempt α := .error (.misuse cause)

def invalidField {α : Type} (record : RecordKind) (field : String) : Attempt α :=
  .error (.invalid record [⟨field, .notText⟩])

end SdkBlueprint
