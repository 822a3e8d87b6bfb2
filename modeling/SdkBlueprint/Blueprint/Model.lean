import SdkBlueprint.Blueprint.TypeExpr
import SdkBlueprint.Blueprint.Validator
import SdkBlueprint.Table

/-! Models of a blueprint: classes, enumerations and unions. -/
namespace SdkBlueprint

inductive Shape where
  | enumeration
  | union
  | composed
  | object
  deriving DecidableEq

def Shape.label : Shape → String
  | .enumeration => "enum"
  | .union => "union"
  | .composed => "composed"
  | .object => "object"

/-- Which model a value of the discriminating property stands for. -/
structure Discriminator where
  propertyName : String
  mapping : Table String

structure Property where
  name : String
  type : TypeExpr
  isOptional : Bool
  isReadonly : Bool
  description : Option String
  validators : List Validator
  discriminator : Option Discriminator

structure SubType where
  name : String
  value : Option String
  deriving DecidableEq

/-- A model. The key is the one of its schema and never changes; the name is the
one that types refer to. -/
structure Model where
  key : String
  name : String
  fileName : String
  shape : Shape
  isEnum : Bool
  enumValues : Option (List String)
  properties : List Property
  description : Option String
  parent : Option String
  discriminator : Option String
  subTypes : List SubType

namespace Model

/-- A model that nothing is known of but its identity. -/
def skeleton (key name fileName : String) (isEnum : Bool) (description : Option String) : Model :=
  ⟨key, name, fileName, .object, isEnum, none, [], description, none, none, []⟩

def withName (m : Model) (name : String) : Model := { m with name }

def property? (m : Model) (name : String) : Option Property :=
  m.properties.find? fun p => p.name == name

end Model
end SdkBlueprint
