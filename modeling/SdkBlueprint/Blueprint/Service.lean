import SdkBlueprint.Blueprint.TypeExpr
import SdkBlueprint.Table

/-! Services of a blueprint: the operations of an API grouped by tag. -/
namespace SdkBlueprint

inductive HttpMethod where
  | get
  | post
  | put
  | delete
  | patch
  deriving DecidableEq

/-- The methods in the order in which a path is read. -/
def HttpMethod.all : List HttpMethod := [.get, .post, .put, .delete, .patch]

def HttpMethod.label : HttpMethod → String
  | .get => "GET"
  | .post => "POST"
  | .put => "PUT"
  | .delete => "DELETE"
  | .patch => "PATCH"

def HttpMethod.fieldName : HttpMethod → String
  | .get => "get"
  | .post => "post"
  | .put => "put"
  | .delete => "delete"
  | .patch => "patch"

inductive ParameterPlace where
  | path
  | query
  | header
  | body
  deriving DecidableEq

def ParameterPlace.label : ParameterPlace → String
  | .path => "path"
  | .query => "query"
  | .header => "header"
  | .body => "body"

inductive ResponseKind where
  | text
  | binary
  | json
  deriving DecidableEq

def ResponseKind.label : ResponseKind → String
  | .text => "text"
  | .binary => "binary"
  | .json => "json"

structure Parameter where
  name : String
  type : TypeExpr
  place : ParameterPlace
  isRequired : Bool
  description : Option String

/-- One callable variant of an operation. Variants of one operation share its id
and differ in the content type that they accept. -/
structure Operation where
  operationId : String
  methodName : String
  path : String
  method : HttpMethod
  parameters : List Parameter
  returnType : TypeExpr
  summary : Option String
  description : Option String
  deprecated : Bool
  requestContentType : Option String
  acceptHeader : Option String
  responseKind : Option ResponseKind

def Operation.key (o : Operation) : String := o.operationId ++ ":" ++ o.methodName

structure Service where
  name : String
  operations : Table Operation

def Service.operation? (s : Service) (methodName : String) : Option Operation :=
  s.operations.values.find? fun o => o.methodName == methodName

end SdkBlueprint
