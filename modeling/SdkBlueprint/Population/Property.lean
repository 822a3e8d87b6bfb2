import SdkBlueprint.Journal
import SdkBlueprint.Schema.Facets
import SdkBlueprint.Schema.Resolution

/-! Properties of models, each made from the schema under its name. -/
namespace SdkBlueprint.Population
open SdkBlueprint.Document SdkBlueprint.Schema

def implicitMessage (subject : String) : String :=
  s!"'{subject}' has no discriminator mapping; using lower-cased schema names as discriminator values."

/-- Notes that the values of a discriminator are derived from the names of the
members, since the schema maps none itself. -/
def noteImplicit (schema subject : Value) : Logged Unit :=
  if mapsImplicitly schema then do
    let about ← Logged.attempt (optionalText .diagnostic "subject" subject)
    Logged.find .population .info .implicitDiscriminator (implicitMessage subject.display) about
  else pure ()

/-- What a property of the given owner is called in findings. -/
def propertySubject (owner : String) (name : Value) : Value :=
  if owner.isEmpty then name else .text (owner ++ "." ++ name.display)

def discriminatorFacet (nameOf : String → String) (name schema : Value) (owner : String) :
    Logged (Option Discriminator) :=
  if isSet schema "oneOf" then do
    match ← Logged.attempt (discriminator nameOf schema) with
    | none => return none
    | some d =>
      noteImplicit schema (propertySubject owner name)
      return some d
  else return none

def propertyFaults (name description : Value) : List FieldFault :=
  (if name.textOf?.isSome then [] else [⟨"name", .notText⟩]) ++
    optionalFaults "description" description

/-- The property of a name and its schema. The owner is empty when there is none. -/
def property (nameOf : String → String) (name schema : Value) (required : Bool) (owner : String) :
    Logged Property := do
  let fields := schemaMap schema
  let disc ← discriminatorFacet nameOf name fields owner
  let type ← Logged.attempt (resolve nameOf schema)
  let facts ← Logged.attempt (validators fields)
  let description := fields.field "description"
  match name.textOf?, propertyFaults name description with
  | some text, [] =>
    pure
      { name := text
        type := type
        isOptional := !required
        isReadonly := isSet fields "readOnly"
        description := description.textOf?
        validators := facts
        discriminator := disc }
  | _, faults => throw (.invalid .property faults)

/-- The names that a schema requires; only a list names any. -/
def requiredNames (schema : Value) : List Value :=
  match schema.field "required" with
  | .list names => names
  | _ => []

def isRequired (names : List Value) (name : Scalar) : Bool :=
  names.any fun v =>
    match v with
    | .scalar s => s.same name
    | _ => false

def declaredProperties (schema : Value) : Attempt (List (Scalar × Value)) :=
  fieldsOf (orEmptyMap (schema.field "properties"))

def ownProperties (nameOf : String → String) (schema : Value) (owner : String) :
    Logged (List Property) := do
  let required := requiredNames schema
  let declared ← Logged.attempt (declaredProperties schema)
  declared.mapM fun e =>
    property nameOf (.scalar e.1) e.2 (isRequired required e.1) owner

end SdkBlueprint.Population
