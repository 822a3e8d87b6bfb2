import SdkBlueprint.Blueprint.Basic
import SdkBlueprint.Document.Value

/-! Blueprints as document values, the form in which they are written as JSON. -/
namespace SdkBlueprint
open SdkBlueprint.Document

def fieldsValue (fields : List (String × Value)) : Value :=
  .map (fields.map fun f => (.text f.1, f.2))

def textOrNull : Option String → Value
  | some s => .text s
  | none => .null

def boolValue (b : Bool) : Value := .scalar (.bool b)

namespace TypeExpr

mutual

def toValue : TypeExpr → Value
  | .named t =>
    fieldsValue
      [("kind", .text "simple"), ("name", .text t.name), ("is_array", boolValue t.isArray),
       ("is_primitive", boolValue t.isPrimitive), ("is_dict", boolValue t.isDictionary),
       ("is_literal", boolValue t.isLiteral)]
  | .composite members composition isArray isDictionary =>
    fieldsValue
      [("kind", .text "composite"), ("members", .list (toValues members)),
       ("composition", .text composition.label), ("is_array", boolValue isArray),
       ("is_dict", boolValue isDictionary),
       ("is_primitive", boolValue (!isDictionary && allPrimitive members))]

def toValues : List TypeExpr → List Value
  | [] => []
  | t :: rest => toValue t :: toValues rest

end

end TypeExpr

def Validator.toValue (v : Validator) : Value :=
  fieldsValue
    [("kind", .text v.kind.label),
     ("param", match v.param with
       | some p => .scalar p.scalar
       | none => .null)]

def Discriminator.toValue (d : Discriminator) : Value :=
  fieldsValue
    [("property_name", .text d.propertyName),
     ("mapping", fieldsValue (d.mapping.entries.map fun e => (e.1, .text e.2)))]

def Property.toValue (p : Property) : Value :=
  fieldsValue
    [("name", .text p.name), ("type", p.type.toValue), ("is_optional", boolValue p.isOptional),
     ("is_readonly", boolValue p.isReadonly), ("description", textOrNull p.description),
     ("validators", .list (p.validators.map Validator.toValue)),
     ("discriminator", match p.discriminator with
       | some d => d.toValue
       | none => .null)]

def SubType.toValue (s : SubType) : Value :=
  fieldsValue [("name", .text s.name), ("value", textOrNull s.value)]

def Model.toValue (m : Model) : Value :=
  fieldsValue
    [("key", .text m.key), ("name", .text m.name), ("file_name", .text m.fileName),
     ("shape", .text m.shape.label), ("is_enum", boolValue m.isEnum),
     ("enum_values", match m.enumValues with
       | some values => .list (values.map .text)
       | none => .null),
     ("properties", .list (m.properties.map Property.toValue)),
     ("description", textOrNull m.description), ("extends", textOrNull m.parent),
     ("discriminator", textOrNull m.discriminator),
     ("sub_types", .list (m.subTypes.map SubType.toValue))]

def Parameter.toValue (p : Parameter) : Value :=
  fieldsValue
    [("name", .text p.name), ("type", p.type.toValue), ("location", .text p.place.label),
     ("is_required", boolValue p.isRequired), ("description", textOrNull p.description)]

def Operation.toValue (o : Operation) : Value :=
  fieldsValue
    [("operation_id", .text o.operationId), ("method_name", .text o.methodName),
     ("path", .text o.path), ("method", .text o.method.label),
     ("parameters", .list (o.parameters.map Parameter.toValue)),
     ("return_type", o.returnType.toValue), ("summary", textOrNull o.summary),
     ("description", textOrNull o.description), ("deprecated", boolValue o.deprecated),
     ("request_content_type", textOrNull o.requestContentType),
     ("accept_header", textOrNull o.acceptHeader),
     ("response_kind", textOrNull (o.responseKind.map ResponseKind.label))]

def Service.toValue (s : Service) : Value :=
  fieldsValue
    [("name", .text s.name),
     ("operations", fieldsValue (s.operations.entries.map fun e => (e.1, e.2.toValue)))]

def Info.toValue (i : Info) : Value :=
  fieldsValue [("title", textOrNull i.title), ("version", textOrNull i.version)]

def Blueprint.toValue (b : Blueprint) : Value :=
  fieldsValue
    [("info", b.info.toValue), ("models", .list (b.models.map Model.toValue)),
     ("services", .list (b.services.map Service.toValue))]

end SdkBlueprint
