import SdkBlueprint.Blueprint.Service
import SdkBlueprint.Journal
import SdkBlueprint.Schema.Resolution
import SdkBlueprint.Services.Components

/-! Parameters of operations. Those of an operation come after those of its path
and replace the ones with the same name and place; the request body is one more
parameter at the end. -/
namespace SdkBlueprint.Services
open SdkBlueprint.Document SdkBlueprint.Schema

def unresolvedParameterMessage (ref operation : String) : String :=
  s!"Cannot resolve parameter reference: {ref} (operation '{operation}')."

def unresolvedBodyMessage (ref operation : String) : String :=
  s!"Cannot resolve request body reference: {ref} (operation '{operation}')."

def unsupportedMessage (name operation place : String) : String :=
  s!"Parameter '{name}' of operation '{operation}' uses unsupported location '{place}'; skipping."

/-- A warning about an operation. Its id has to be a text by then. -/
def warnOperation (code : FindingCode) (message : String) (operation : Value) : Logged Unit := do
  let subject ← Logged.attempt (optionalText .diagnostic "subject" operation)
  Logged.find .services .warning code message subject

/-- What a part refers to, or the part itself if it is no mapping. -/
def referent (node : Value) : Value := if node.isMap then node.field "$ref" else node

/-- The parameter objects of a list, with references followed. One that leads
nowhere is dropped with a warning. -/
def knownParameters (table operation params : Value) : Logged (List Value) := do
  let items ← Logged.attempt (iterate params)
  let targets ← items.mapM fun item => do
    match ← Logged.attempt (target table item) with
    | some param => return some param
    | none =>
      let ref := (referent item).display
      Logged.warn .services .unresolvedParameter
        (unresolvedParameterMessage ref operation.display) ref
      return none
  return targets.filterMap id

def identityPart (param : Value) (field : String) : Attempt Scalar :=
  match (param.field? field).getD (.text "") with
  | .scalar s => .ok s
  | _ => misuse .wrongKind

def identity (param : Value) : Attempt (Scalar × Scalar) := do
  let _ ← fieldsOf param
  let name ← identityPart param "name"
  let place ← identityPart param "in"
  return (name, place)

def sameIdentity (a b : Scalar × Scalar) : Bool := a.1.same b.1 && a.2.same b.2

/-- The parameters of the path that the operation does not replace, then those of
the operation. -/
def combinedParameters (ofPath ofOperation : List Value) : Attempt (List Value) := do
  let replaced ← ofOperation.mapM identity
  let own ← ofPath.mapM fun param => return (param, ← identity param)
  let kept := own.filter fun p => !replaced.any (sameIdentity p.2)
  return kept.map Prod.fst ++ ofOperation

def declaredPlace? (place : Value) : Option ParameterPlace :=
  match place.textOf? with
  | some "path" => some .path
  | some "query" => some .query
  | some "header" => some .header
  | _ => none

def describedParameter (name : String) (type : TypeExpr) (place : ParameterPlace)
    (required : Bool) (description : Value) : Attempt Parameter := do
  let description ← optionalText .parameter "description" description
  return ⟨name, type, place, required, description⟩

def parameter (nameOf : String → String) (param : Value) (place : ParameterPlace) :
    Attempt Parameter := do
  let name := ((param.field? "name").getD (.text "")).display
  let type ← resolve nameOf (param.field "schema")
  describedParameter name type place (isSet param "required" || place == .path)
    (param.field "description")

/-- The parameters of the places that are supported; each other one is dropped
with a warning. -/
def placedParameters (nameOf : String → String) (operation : Value) (params : List Value) :
    Logged (List Parameter) := do
  let placed ← params.mapM fun param => do
    match declaredPlace? (param.field "in") with
    | some place => return some (← Logged.attempt (parameter nameOf param place))
    | none =>
      warnOperation .unsupportedParameter
        (unsupportedMessage (param.field "name").display operation.display
          (param.field "in").display) operation
      return none
  return placed.filterMap id

/-- The item of a list at a position; a negative one counts from the end. -/
def itemAt (items : List Value) (position : Int) : Attempt Value :=
  let index := if position < 0 then position + items.length else position
  if index < 0 then misuse .outOfRange
  else
    match items[index.toNat]? with
    | some item => .ok item
    | none => misuse .outOfRange

/-- The first key of a content and what it holds under that key. Of a list the
first item is taken for a position in it. -/
def firstContent (content : Value) : Attempt (Value × Value) :=
  match content with
  | .map ((key, media) :: _) => .ok (.scalar key, media)
  | .list items =>
    match items.head? with
    | some (.scalar (.int n)) => (itemAt items n).map fun media => (.scalar (.int n), media)
    | some (.scalar (.bool b)) =>
      (itemAt items (if b then 1 else 0)).map fun media => (.scalar (.bool b), media)
    | _ => misuse .wrongKind
  | .scalar (.bytes bytes) =>
    let items : List Value := bytes.map fun b => .scalar (.int b.toNat)
    match bytes.head? with
    | some b => (itemAt items b.toNat).map fun media => (.scalar (.int b.toNat), media)
    | none => misuse .wrongKind
  | _ => misuse .wrongKind

def mediaSchema (media : Value) : Value := media.field "schema"

structure RequestBody where
  parameters : List Parameter
  contentType : Value

/-- Only the first content type of a body counts. -/
def bodyParameters (nameOf : String → String) (body : Value) : Attempt RequestBody := do
  let content := body.field "content"
  if !content.truthy then return ⟨[], .null⟩
  let (contentType, media) ← firstContent content
  let schema := mediaSchema media
  if schema.isNull then return ⟨[], contentType⟩
  let type ← resolve nameOf schema
  let param ← describedParameter "body" type .body (isSet body "required")
    (body.field "description")
  return ⟨[param], contentType⟩

def requestBody (nameOf : String → String) (table operation declared : Value) :
    Logged RequestBody := do
  if declared.isNull then return ⟨[], .null⟩
  match ← Logged.attempt (target table declared) with
  | some body => Logged.attempt (bodyParameters nameOf body)
  | none =>
    let ref := (referent declared).display
    Logged.warn .services .unresolvedRequestBody
      (unresolvedBodyMessage ref operation.display) ref
    return ⟨[], .null⟩

def operationParameters (nameOf : String → String) (components : Components)
    (item operation id : Value) : Logged RequestBody := do
  let ofPath ← knownParameters components.parameters id (orEmptyList (item.field "parameters"))
  let ofOperation ←
    knownParameters components.parameters id (orEmptyList (operation.field "parameters"))
  let merged ← Logged.attempt (combinedParameters ofPath ofOperation)
  let params ← placedParameters nameOf id merged
  let body ← requestBody nameOf components.requestBodies id (operation.field "requestBody")
  return ⟨params ++ body.parameters, body.contentType⟩

end SdkBlueprint.Services
