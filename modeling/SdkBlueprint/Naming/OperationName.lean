import SdkBlueprint.Naming.Casing
import SdkBlueprint.Text.Letters
import SdkBlueprint.Text.Parts

/-! Operation ids made from a method and a path template. A parameter in braces
reads as `By` and its name. -/
namespace SdkBlueprint.Naming
open SdkBlueprint.Text

def segmentName (segment : List Char) : List Char :=
  match segment with
  | '\x7b' :: inner =>
    if inner.getLast? = some '\x7d' then 'B' :: 'y' :: pascalChars inner.dropLast
    else pascalChars segment
  | _ => pascalChars segment

def operationIdChars (method path : List Char) : List Char :=
  camelChars (lowerChars method ++ (parts '/' path).flatMap segmentName)

/-- Operation id for a method and a path template. -/
def operationId (method path : String) : String :=
  String.ofList (operationIdChars method.toList path.toList)

end SdkBlueprint.Naming
