import SdkBlueprint.Schema.Shape
import SdkBlueprint.Text.Letters

/-! Facets of a schema other than its type: validation facts and the discriminator
of a union. -/
namespace SdkBlueprint.Schema
open SdkBlueprint.Document

/-- A validator for a field that is there and not null. -/
def bound (schema : Value) (name : String) (kind : ValidatorKind) : Attempt (List Validator) :=
  let param := schema.field name
  if param.isNull then .ok [] else (Validator.ofParam kind param).map fun v => [v]

def patternFacet (schema : Value) : Attempt (List Validator) :=
  let param := schema.field "pattern"
  if param.truthy then (Validator.ofParam .pattern param).map fun v => [v] else .ok []

def formatKind? : String → Option ValidatorKind
  | "email" => some .email
  | "uuid" => some .uuid
  | "date" => some .date
  | "date-time" => some .date
  | "uri" => some .url
  | "url" => some .url
  | _ => none

def formatFacet (schema : Value) : Attempt (List Validator) :=
  match schema.field "format" with
  | .scalar (.text format) => .ok ((formatKind? format).toList.map fun kind => ⟨kind, none⟩)
  | .scalar _ => .ok []
  | _ => misuse .wrongKind

def nullableFacet (schema : Value) : List Validator :=
  if (schema.field "nullable").isFalse then [⟨.notEmpty, none⟩] else []

/-- Validation facts of a property schema: lengths, pattern, range, format and
whether null is excluded. A reference has none. -/
def validators (schema : Value) : Attempt (List Validator) :=
  if !schema.isMap || isReference schema then .ok []
  else do
    let minLength ← bound schema "minLength" .minLength
    let maxLength ← bound schema "maxLength" .maxLength
    let pattern ← patternFacet schema
    let minimum ← bound schema "minimum" .min
    let maximum ← bound schema "maximum" .max
    let format ← formatFacet schema
    return minLength ++ maxLength ++ pattern ++ minimum ++ maximum ++ format ++
      nullableFacet schema

def refNames (nameOf : String → String) (members : Value) : Attempt (List String) := do
  let items ← iterate members
  (items.filterMap ref?).mapM fun ref => (targetKey ref).map nameOf

/-- Values and names of an explicit mapping; both are taken as text. -/
def explicitMapping (nameOf : String → String) (mapping : Value) : Attempt (Table String) := do
  let entries ← fieldsOf mapping
  return Table.ofEntries (entries.map fun e => (e.1.display, nameOf (pointerKey e.2.display)))

/-- Without a mapping the lower-case name of a member stands for it. -/
def implicitMapping (nameOf : String → String) (oneOf : Value) : Attempt (Table String) := do
  let names ← refNames nameOf (orEmptyList oneOf)
  return Table.ofEntries (names.map fun name => (Text.lower name, name))

def discriminator (nameOf : String → String) (schema : Value) : Attempt (Option Discriminator) :=
  let declared := schema.field "discriminator"
  let property := declared.field "propertyName"
  if !declared.isMap || !property.truthy then .ok none
  else do
    let mapping ←
      if isSet declared "mapping" then explicitMapping nameOf (declared.field "mapping")
      else implicitMapping nameOf (schema.field "oneOf")
    match property.textOf? with
    | some name => return some ⟨name, mapping⟩
    | none => invalidField .discriminator "property_name"

end SdkBlueprint.Schema
