import SdkBlueprint.Naming.OperationName
import SdkBlueprint.Services.ContentType
import SdkBlueprint.Services.Parameters
import SdkBlueprint.Services.Responses

/-! Variants of an operation: one for every content type of the response that has
a schema, or a single one without a result if the response has no content. -/
namespace SdkBlueprint.Services
open SdkBlueprint.Document SdkBlueprint.Schema

/-- An operation where the document declares it: a method of a path item. -/
structure Endpoint where
  path : String
  method : HttpMethod
  item : Value
  operation : Value

namespace Endpoint

/-- The declared id; without one it is made from method and path. -/
def id (e : Endpoint) : Value :=
  let declared := e.operation.field "operationId"
  if declared.truthy then declared else .text (Naming.operationId e.method.label e.path)

/-- The endpoints of one path, in the order of the methods. -/
def ofItem (path : String) (item : Value) : List Endpoint :=
  HttpMethod.all.filterMap fun method =>
    let operation := item.field method.fieldName
    if operation.isMap then some ⟨path, method, item, operation⟩ else none

def ofDocument (document : Value) : Attempt (List Endpoint) := do
  let _ ← fieldsOf document
  let paths ← fieldsOf (orEmptyMap (document.field "paths"))
  return paths.flatMap fun p => ofItem p.1.display p.2

end Endpoint

structure Shared where
  id : String
  baseName : String
  endpoint : Endpoint
  parameters : List Parameter
  requestContentType : Value

def noSuccessMessage (operation method path : String) : String :=
  s!"Operation '{operation}' ({method} {path}) has no 2xx or default response; skipping."

def unresolvedResponseMessage (status operation : String) : String :=
  s!"Cannot resolve response '{status}' of operation '{operation}'; skipping."

def noSchemaMessage (status operation contentType : String) : String :=
  s!"Response '{status}' of operation '{operation}' declares '{contentType}' without a schema; skipping that content type."

def operationFaults (s : Shared) : List FieldFault :=
  let operation := s.endpoint.operation
  optionalFaults "summary" (operation.field "summary") ++
    optionalFaults "description" (operation.field "description") ++
    optionalFaults "request_content_type" s.requestContentType

def variant (s : Shared) (label : String) (returnType : TypeExpr) (accept : Option String)
    (kind : Option ResponseKind) : Attempt Operation :=
  match operationFaults s with
  | [] =>
    let operation := s.endpoint.operation
    .ok
      { operationId := s.id
        methodName := if label.isEmpty then s.baseName else s.baseName ++ "_" ++ label
        path := s.endpoint.path
        method := s.endpoint.method
        parameters := s.parameters
        returnType := returnType
        summary := (operation.field "summary").textOf?
        description := (operation.field "description").textOf?
        deprecated := isSet operation "deprecated"
        requestContentType := s.requestContentType.textOf?
        acceptHeader := accept
        responseKind := kind }
  | faults => .error (.invalid .operation faults)

def contentTypeOf : Scalar → Attempt String
  | .text s => .ok s
  | .bytes _ => misuse .wrongKind
  | _ => misuse .noFields

def contentVariant (nameOf : String → String) (s : Shared) (contentType : Scalar)
    (schema : Value) : Attempt Operation := do
  let type ← contentTypeOf contentType
  let returnType ← resolve nameOf schema
  variant s (contentLabel type) returnType (some type) (responseKind? type)

/-- The variants of a response with content. A content type without a schema is
left out with a warning. -/
def contentVariants (nameOf : String → String) (s : Shared) (status : String)
    (content : List (Scalar × Value)) : Logged (List Operation) := do
  let made ← content.mapM fun e => do
    let schema := mediaSchema e.2
    if schema.isNull then
      warnOperation .missingResponseSchema (noSchemaMessage status s.id e.1.display) (.text s.id)
      return none
    else return some (← Logged.attempt (contentVariant nameOf s e.1 schema))
  return made.filterMap id

def responseVariants (nameOf : String → String) (s : Shared) (status : String)
    (response : Value) : Logged (List Operation) := do
  let content := orEmptyMap (response.field "content")
  if !content.truthy then
    let single ← Logged.attempt (variant s "" TypeExpr.void none none)
    return [single]
  else contentVariants nameOf s status (← Logged.attempt (fieldsOf content))

/-- An operation id has to be a text where a method is named after it. -/
def operationIdText (id : Value) : Attempt String :=
  match id.textOf? with
  | some s => .ok s
  | none => misuse .wrongKind

/-- The variants of an endpoint. Without a response that can be used there are
none, and a warning says so. -/
def variants (nameOf : String → String) (components : Components) (e : Endpoint) :
    Logged (List Operation) := do
  let id := e.id
  let responses ← Logged.attempt (fieldsOf (orEmptyMap (e.operation.field "responses")))
  match successResponse responses with
  | none =>
    warnOperation .missingSuccessResponse
      (noSuccessMessage id.display e.method.label e.path) id
    return []
  | some (status, declared) =>
    match ← Logged.attempt (target components.responses declared) with
    | none =>
      warnOperation .unresolvedResponse (unresolvedResponseMessage status id.display) id
      return []
    | some response =>
      let body ← operationParameters nameOf components e.item e.operation id
      let text ← Logged.attempt (operationIdText id)
      let shared : Shared := ⟨text, Naming.camel text, e, body.parameters, body.contentType⟩
      responseVariants nameOf shared status response

end SdkBlueprint.Services
