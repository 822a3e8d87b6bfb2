import SdkBlueprint.Document.Display
import SdkBlueprint.Journal

/-! The version that a document declares. -/
namespace SdkBlueprint.Source
open SdkBlueprint.Document

def isKnown (version : String) : Bool :=
  "3.0.".toList.isPrefixOf version.toList || "3.1.".toList.isPrefixOf version.toList

def isSupported (version : String) : Bool := "3.".toList.isPrefixOf version.toList

def newerMessage (version : String) : String :=
  s!"OpenAPI version {version} is newer than 3.1; converting anyway"

/-- Text of the declared version. Versions of the third generation are accepted,
those past 3.1 with a remark. -/
def checkVersion (document : Value) : Logged String := do
  match document.field? "swagger" with
  | some v =>
    let version ← Logged.attempt v.display?
    throw (.document (.swagger version))
  | none =>
    let declared := document.field "openapi"
    if declared.isNull then throw (.document .noVersion)
    let version ← Logged.attempt declared.display?
    if !isSupported version then throw (.document (.unsupportedVersion version))
    if !isKnown version then Logged.remark .source .warning (newerMessage version)
    return version

end SdkBlueprint.Source
