import SdkBlueprint.Blueprint.Model
import SdkBlueprint.Document.Json.Writer
import SdkBlueprint.Schema.Reference

/-! The shape of a schema: what kind of model it declares, and the values of
enumerations as text. -/
namespace SdkBlueprint.Schema
open SdkBlueprint.Document

/-- Declared type of a schema; of a list the first entry other than `null`. -/
def declaredType (schema : Value) : Value :=
  match schema.field "type" with
  | .list types => (types.find? fun t => t.textOf? != some "null").getD .null
  | t => t

def isSet (schema : Value) (name : String) : Bool := (schema.field name).truthy

/-- An enumeration comes first, then a union without own properties, then a
composition; all else is a plain class. -/
def classify (schema : Value) : Shape :=
  if !(schema.field "enum").isNull then .enumeration
  else if isSet schema "oneOf" && (schema.field "properties").isNull then .union
  else if isSet schema "allOf" then .composed
  else .object

def literalText (v : Value) : Attempt String :=
  match v with
  | .scalar (.text s) => .ok s
  | v => Json.written Json.literalLayout v

/-- A discriminator that names a property but maps no values. -/
def mapsImplicitly (schema : Value) : Bool :=
  let d := schema.field "discriminator"
  d.isMap && isSet d "propertyName" && !isSet d "mapping"

end SdkBlueprint.Schema
