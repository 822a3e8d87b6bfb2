import SdkBlueprint.Failure

/-! The journal of a run: findings that do not stop it, and remarks on its
progress, in the order in which they were made. -/
namespace SdkBlueprint

inductive Severity where
  | info
  | warning
  deriving DecidableEq

inductive FindingCode where
  | reservedName
  | missingReference
  | propertyCollision
  | implicitDiscriminator
  | inlineUnionMember
  | missingSuccessResponse
  | missingResponseSchema
  | unresolvedParameter
  | unsupportedParameter
  | unresolvedRequestBody
  | unresolvedResponse
  | methodCollision
  deriving DecidableEq

def FindingCode.all : List FindingCode :=
  [.reservedName, .missingReference, .propertyCollision, .implicitDiscriminator,
   .inlineUnionMember, .missingSuccessResponse, .missingResponseSchema, .unresolvedParameter,
   .unsupportedParameter, .unresolvedRequestBody, .unresolvedResponse, .methodCollision]

def FindingCode.label : FindingCode → String
  | .reservedName => "reserved-name"
  | .missingReference => "missing-reference"
  | .propertyCollision => "property-collision"
  | .implicitDiscriminator => "implicit-discriminator"
  | .inlineUnionMember => "inline-union-member"
  | .missingSuccessResponse => "missing-success-response"
  | .missingResponseSchema => "missing-response-schema"
  | .unresolvedParameter => "unresolved-parameter"
  | .unsupportedParameter => "unsupported-parameter"
  | .unresolvedRequestBody => "unresolved-request-body"
  | .unresolvedResponse => "unresolved-response"
  | .methodCollision => "method-collision"

def FindingCode.ofLabel? (label : String) : Option FindingCode :=
  FindingCode.all.find? fun c => c.label == label

def Severity.label : Severity → String
  | .info => "info"
  | .warning => "warning"

/-- A finding about one unit: a schema key, an operation id or a reference. -/
structure Finding where
  code : FindingCode
  severity : Severity
  message : String
  subject : Option String
  deriving DecidableEq

inductive Stage where
  | caller
  | source
  | sanitizing
  | composition
  | population
  | services
  | conversion
  deriving DecidableEq

inductive Level where
  | debug
  | info
  | warning
  deriving DecidableEq

def Level.label : Level → String
  | .debug => "DEBUG"
  | .info => "INFO"
  | .warning => "WARNING"

def Level.rank : Level → Nat
  | .debug => 0
  | .info => 1
  | .warning => 2

def Severity.level : Severity → Level
  | .info => .info
  | .warning => .warning

inductive Entry where
  | finding (stage : Stage) (finding : Finding)
  | remark (stage : Stage) (level : Level) (message : String)
  deriving DecidableEq

def Entry.stage : Entry → Stage
  | .finding stage _ => stage
  | .remark stage _ _ => stage

def Entry.level : Entry → Level
  | .finding _ f => f.severity.level
  | .remark _ level _ => level

def Entry.message : Entry → String
  | .finding _ f => f.message
  | .remark _ _ message => message

def Entry.finding? : Entry → Option Finding
  | .finding _ f => some f
  | .remark _ _ _ => none

abbrev Journal := List Entry

namespace Journal

def findings (j : Journal) : List Finding := j.filterMap Entry.finding?

def warnings (j : Journal) : List Finding :=
  j.findings.filter fun f => f.severity == .warning

def withCode (j : Journal) (code : FindingCode) : List Finding :=
  j.findings.filter fun f => f.code == code

def codes (j : Journal) : List FindingCode := (j.findings.map Finding.code).eraseDups

def sortedCodes (j : Journal) : List FindingCode :=
  j.codes.mergeSort fun a b => decide (a.label ≤ b.label)

/-- How often each code occurs, in the order of the labels. -/
def counts (j : Journal) : List (FindingCode × Nat) :=
  j.sortedCodes.map fun c => (c, (j.withCode c).length)

theorem findings_append (i j : Journal) :
    (i ++ j : Journal).findings = i.findings ++ j.findings := by
  simp [findings, List.filterMap_append]

end Journal

/-- A step that may fail and that keeps a journal, also when it fails. -/
abbrev Logged (α : Type) := ExceptT Failure (StateM Journal) α

namespace Logged

def note (e : Entry) : Logged Unit := modify fun j => j ++ [e]

def remark (stage : Stage) (level : Level) (message : String) : Logged Unit :=
  note (.remark stage level message)

def find (stage : Stage) (severity : Severity) (code : FindingCode) (message : String)
    (subject : Option String) : Logged Unit :=
  note (.finding stage ⟨code, severity, message, subject⟩)

def warn (stage : Stage) (code : FindingCode) (message subject : String) : Logged Unit :=
  find stage .warning code message (some subject)

def attempt {α : Type} : Attempt α → Logged α
  | .ok v => pure v
  | .error f => throw f

end Logged
end SdkBlueprint
