import SdkBlueprint.Document.Value
import SdkBlueprint.Failure

/-! Fields of document parts. A part is used as a list, a mapping or a text; a
value of another sort is a misuse. -/
namespace SdkBlueprint.Schema
open SdkBlueprint.Document

def iterate (v : Value) : Attempt (List Value) :=
  match v.elements? with
  | some items => .ok items
  | none => misuse .wrongKind

def fieldsOf : Value → Attempt (List (Scalar × Value))
  | .map entries => .ok entries
  | _ => misuse .noFields

def orEmptyMap (v : Value) : Value := if v.truthy then v else .map []

def orEmptyList (v : Value) : Value := if v.truthy then v else .list []

/-- A field that is absent, null or a text. -/
def optionalText (record : RecordKind) (field : String) : Value → Attempt (Option String)
  | .scalar .null => .ok none
  | .scalar (.text s) => .ok (some s)
  | _ => invalidField record field

def optionalFaults (field : String) (v : Value) : List FieldFault :=
  if v.isNull || v.textOf?.isSome then [] else [⟨field, .notText⟩]

/-- Schemas other than a mapping count as empty ones. -/
def schemaMap (schema : Value) : Value := if schema.isMap then schema else .map []

end SdkBlueprint.Schema
