import SdkBlueprint.Blueprint.TypeExpr
import SdkBlueprint.Schema.Form

/-! Types of schema nodes. They depend on the names that references stand for and
on nothing else. -/
namespace SdkBlueprint.Schema
open SdkBlueprint.Document

def referenceType (nameOf : String → String) (ref : Value) : Attempt TypeExpr :=
  (targetKey ref).map fun key => .reference (nameOf key)

/-- An enumeration with a title is the model of that title. -/
def titledType (nameOf : String → String) : Value → Attempt TypeExpr
  | .scalar (.text title) => .ok (.reference (nameOf title))
  | .scalar _ => invalidField .simpleType "name"
  | _ => misuse .wrongKind

def literalTypes (values : List Value) : Attempt (List TypeExpr) :=
  values.mapM fun v => (literalText v).map TypeExpr.literal

def formatType (format : Value) : TypeExpr :=
  match format with
  | .scalar (.text "date") => .reference "date"
  | .scalar (.text "date-time") => .reference "date"
  | .scalar (.text "binary") => .reference "binary"
  | _ => .primitive "string"

/-- An enumeration without a title is the union of its literals. -/
def stringType (nameOf : String → String) (node : Value) : Attempt TypeExpr :=
  match node.field "enum" with
  | .scalar .null => .ok (formatType (node.field "format"))
  | values =>
    let title := node.field "title"
    if title.truthy then titledType nameOf title
    else do
      let literals ← literalTypes (← iterate values)
      return .composite literals .union false false

/-- The only one of several types, or their composition. -/
def combine (composition : Composition) : List TypeExpr → TypeExpr
  | [t] => t
  | types => .composite types composition false false

def resolve (nameOf : String → String) (node : Value) : Attempt TypeExpr :=
  match _hform : formOf node with
  | .error f => .error f
  | .ok .anything => .ok .any
  | .ok (.reference ref) => referenceType nameOf ref
  | .ok (.delegate child) => resolve nameOf child
  | .ok (.references refs) =>
    (refs.mapM (referenceType nameOf)).map (combine .intersection)
  | .ok (.union members) =>
    (members.attach.mapM fun m => resolve nameOf m.val).map (combine .union)
  | .ok (.array none) => .ok TypeExpr.any.asArray
  | .ok (.array (some items)) => (resolve nameOf items).map TypeExpr.asArray
  | .ok (.dictionary none) => .ok TypeExpr.any.asDictionary
  | .ok (.dictionary (some values)) => (resolve nameOf values).map TypeExpr.asDictionary
  | .ok .string => stringType nameOf node
  | .ok .number => .ok (.primitive "number")
  | .ok .boolean => .ok (.primitive "boolean")
termination_by sizeOf node
decreasing_by
  all_goals apply formOf_children _hform
  all_goals simp [Form.children]
  exact m.property

end SdkBlueprint.Schema
