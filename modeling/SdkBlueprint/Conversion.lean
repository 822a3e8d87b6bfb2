import SdkBlueprint.Blueprint.Basic
import SdkBlueprint.Population.Basic
import SdkBlueprint.Registry.Sanitizing
import SdkBlueprint.Services.Basic

/-! Conversion of a document to a blueprint. The models are discovered, renamed
where their names are reserved, and populated; then the services are read. Each
step uses what the one before it leaves. -/
namespace SdkBlueprint
open SdkBlueprint.Document SdkBlueprint.Schema

def discoveredMessage (count : Nat) : String := s!"Discovered {count} schemas"

def builtMessage (services operations : Nat) : String :=
  s!"Built {services} services with {operations} operations"

def discovered (document : Value) : Attempt Registry := do
  let components ← Services.componentsOf document
  let _ ← fieldsOf components
  Registry.discover (components.field "schemas")

/-- The version as text, unless it is absent or null. -/
def versionText (version : Value) : Attempt (Option String) :=
  if version.isNull then .ok none else version.display?.map some

def infoOf (document : Value) : Attempt Info := do
  let info := orEmptyMap (document.field "info")
  let _ ← fieldsOf info
  let version ← versionText (info.field "version")
  let title ← optionalText .info "title" (info.field "title")
  return ⟨title, version⟩

/-- The registry with its names sanitized and its models populated. -/
def models (settings : Settings) (document : Value) : Logged Registry := do
  let reg ← Logged.attempt (discovered document)
  Logged.remark .conversion .debug (discoveredMessage reg.size)
  let (reg, _) ← reg.sanitizeLogged settings
  Population.populated reg

def convert (settings : Settings) (document : Value) : Logged Blueprint := do
  let reg ← models settings document
  let services ← Services.services settings reg.nameOf document
  let operations := services.foldl (fun n s => n + s.operations.size) 0
  Logged.remark .conversion .debug (builtMessage services.length operations)
  let info ← Logged.attempt (infoOf document)
  return ⟨info, reg.models, services⟩

end SdkBlueprint
