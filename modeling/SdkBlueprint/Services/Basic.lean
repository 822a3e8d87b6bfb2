import SdkBlueprint.Services.Catalog
import SdkBlueprint.Services.Variants
import SdkBlueprint.Settings

/-! Services of a document: its endpoints grouped by tag. An endpoint with several
tags is read once and added to the service of every tag. -/
namespace SdkBlueprint.Services
open SdkBlueprint.Document SdkBlueprint.Schema

def serviceName (settings : Settings) (tag : Value) : String :=
  Naming.pascal tag.display ++ settings.serviceSuffix

/-- The services of an endpoint; without tags it belongs to the default one. -/
def serviceNames (settings : Settings) (operation : Value) : Attempt (List String) := do
  let declared := operation.field "tags"
  let tags := if declared.truthy then declared else .list [.text settings.defaultTag]
  return ((← iterate tags).map (serviceName settings)).eraseDups

def registerAll (names : List String) (variants : List Operation) (c : Catalog) :
    Logged Catalog :=
  names.foldlM (fun c name => variants.foldlM (Catalog.register name) c) c

def addEndpoint (settings : Settings) (nameOf : String → String) (components : Components)
    (c : Catalog) (e : Endpoint) : Logged Catalog := do
  let names ← Logged.attempt (serviceNames settings e.operation)
  let made ← variants nameOf components e
  registerAll names made (names.foldl Catalog.ensure c)

def catalog (settings : Settings) (nameOf : String → String) (document : Value) :
    Logged Catalog := do
  let components ← Logged.attempt (Components.ofDocument document)
  let endpoints ← Logged.attempt (Endpoint.ofDocument document)
  endpoints.foldlM (addEndpoint settings nameOf components) Table.empty

def services (settings : Settings) (nameOf : String → String) (document : Value) :
    Logged (List Service) := do
  return Catalog.services (← catalog settings nameOf document)

end SdkBlueprint.Services
