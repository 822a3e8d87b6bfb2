import SdkBlueprint.Blueprint.Service
import SdkBlueprint.Naming.Casing
import SdkBlueprint.Text.Blank
import SdkBlueprint.Text.Letters
import SdkBlueprint.Text.Parts

/-! Content types of responses: the label that tells the variants of an operation
apart, and how a payload is read. Both depend on the type alone, without its
parameters, surrounding blanks and case. -/
namespace SdkBlueprint.Services
open SdkBlueprint.Text

/-- The type without parameters, trimmed and in lower case. -/
def baseType (contentType : String) : List Char :=
  lowerChars (trimChars (contentType.toList.takeWhile (· != ';')))

def knownLabel? (base : String) : Option String :=
  match base with
  | "*/*" => some "Any"
  | "application/json" => some ""
  | "application/xml" => some "Xml"
  | "application/x-xml" => some "Xml"
  | "text/xml" => some "Xml"
  | "application/octet-stream" => some "Binary"
  | "text/plain" => some "Text"
  | "text/html" => some "Html"
  | _ => none

def subtype (base : List Char) : List Char := (base.dropWhile (· != '/')).drop 1

def derivedLabel (base : List Char) : String :=
  let sub := subtype base
  if base.takeWhile (· != '/') == "image".toList then
    if sub.isEmpty || sub == ['*'] then "Image"
    else String.ofList ("Image".toList ++ Naming.pascalChars sub)
  else
    match Naming.pascalChars sub with
    | [] => "Unknown"
    | label => String.ofList label

/-- Label of a content type; empty for plain JSON. -/
def contentLabel (contentType : String) : String :=
  let base := baseType contentType
  (knownLabel? (String.ofList base)).getD (derivedLabel base)

def isBinaryType (base : List Char) : Bool :=
  "image/".toList.isPrefixOf base || base == "application/pdf".toList ||
    base == "application/octet-stream".toList || mentions "binary".toList base

def isJsonType (base : List Char) : Bool :=
  base == "application/json".toList || "+json".toList.isSuffixOf base

/-- How a payload of the content type is read, if that is known. -/
def responseKind? (contentType : String) : Option ResponseKind :=
  let base := baseType contentType
  if "text/".toList.isPrefixOf base then some .text
  else if isBinaryType base then some .binary
  else if isJsonType base then some .json
  else none

end SdkBlueprint.Services
