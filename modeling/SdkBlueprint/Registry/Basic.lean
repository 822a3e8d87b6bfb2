import SdkBlueprint.Blueprint.Model
import SdkBlueprint.Naming.Casing
import SdkBlueprint.Schema.Reference

/-! The registry of component schemas. It holds one record per schema under the
key of the schema, in the order of declaration. References go by the key; the
display name may change. -/
namespace SdkBlueprint
open SdkBlueprint.Document SdkBlueprint.Schema

structure Registry where
  schemas : Table Value
  records : Table Model

namespace Registry

def empty : Registry := ⟨Table.empty, Table.empty⟩

def pairOf (v : Value) : Attempt (Scalar × Value) :=
  match v.elements? with
  | none => misuse .wrongKind
  | some [.scalar key, value] => .ok (key, value)
  | some [_, _] => misuse .wrongKind
  | some _ => misuse .badValue

/-- Keys and schemas of the component schemas, given as a mapping or as pairs. -/
def schemaPairs (schemas : Value) : Attempt (List (Scalar × Value)) :=
  match orEmptyMap schemas with
  | .map entries => .ok entries
  | other => do
    let pairs ← (← iterate other).mapM pairOf
    return Value.mapOf pairs

/-- The record of a schema before it is built: identity, enumeration flag and
description. -/
def skeleton (key : String) (schema : Value) : Attempt Model := do
  let fields := schemaMap schema
  let description ← optionalText .model "description" (fields.field "description")
  return .skeleton key (Naming.pascal key) (Naming.kebab key) (fields.hasField "enum") description

def add (reg : Registry) (pair : Scalar × Value) : Attempt Registry :=
  match pair.1 with
  | .text key => do
    let model ← skeleton key pair.2
    return ⟨reg.schemas.put key pair.2, reg.records.put key model⟩
  | _ => misuse .wrongKind

def discover (schemas : Value) : Attempt Registry := do
  (← schemaPairs schemas).foldlM add empty

def get? (reg : Registry) (key : String) : Option Model := reg.records.get? key

def schema? (reg : Registry) (key : String) : Option Value := reg.schemas.get? key

def contains (reg : Registry) (key : String) : Bool := reg.records.contains key

def keys (reg : Registry) : List String := reg.records.names

def models (reg : Registry) : List Model := reg.records.values

def size (reg : Registry) : Nat := reg.records.size

def replace (reg : Registry) (key : String) (model : Model) : Attempt Registry :=
  if reg.contains key then .ok { reg with records := reg.records.put key model }
  else misuse .missingKey

/-- Display name of a key in a table of records; an unknown key is its own name. -/
def nameIn (records : Table Model) (key : String) : String :=
  match records.get? key with
  | some model => model.name
  | none => key

def nameOf (reg : Registry) (key : String) : String := nameIn reg.records key

/-- Display name of the schema that a reference points at. -/
def nameOfReference (reg : Registry) (ref : Value) : Attempt String :=
  (targetKey ref).map reg.nameOf

end Registry
end SdkBlueprint
