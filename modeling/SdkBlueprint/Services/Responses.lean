import SdkBlueprint.Document.Display

/-! Choice of the response that tells what an operation returns. -/
namespace SdkBlueprint.Services
open SdkBlueprint.Document

def isSuccess (status : Scalar) : Bool := status.displayChars.head? == some '2'

/-- The first success response, else the default one. -/
def successResponse (responses : List (Scalar × Value)) : Option (String × Value) :=
  match responses.find? fun e => isSuccess e.1 with
  | some (status, response) => some (status.display, response)
  | none => (Value.member? "default" responses).map fun response => ("default", response)

end SdkBlueprint.Services
