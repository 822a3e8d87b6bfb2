import SdkBlueprint.Schema.Reference
import SdkBlueprint.Table

/-! Components that operations refer to: parameters, request bodies and
responses. -/
namespace SdkBlueprint.Services
open SdkBlueprint.Document SdkBlueprint.Schema

structure Components where
  parameters : Value
  requestBodies : Value
  responses : Value

def componentsOf (document : Value) : Attempt Value := do
  let _ ← fieldsOf document
  return orEmptyMap (document.field "components")

def Components.ofDocument (document : Value) : Attempt Components := do
  let components ← componentsOf document
  let _ ← fieldsOf components
  let table (name : String) := orEmptyMap (components.field name)
  return ⟨table "parameters", table "requestBodies", table "responses"⟩

def textKeys : List (Scalar × Value) → List String
  | [] => []
  | (.text k, _) :: rest => k :: textKeys rest
  | _ :: rest => textKeys rest

theorem mem_textKeys {name : String} {entries : List (Scalar × Value)} {v : Value}
    (h : Value.member? name entries = some v) : name ∈ textKeys entries := by
  induction entries with
  | nil => simp [Value.member?] at h
  | cons e rest ih =>
    obtain ⟨k, w⟩ := e
    cases k with
    | text s =>
      by_cases hs : s = name
      · simp [textKeys, hs]
      · simp [Value.member?, hs] at h; simp [textKeys, ih h]
    | _ => simp [Value.member?] at h; simpa [textKeys] using ih h

/-- Follows references through the entries of a table to a mapping that is none.
A chain that leaves the table, ends in another value or comes back to a key leads
nowhere. The keys not seen yet become fewer with every step. -/
def follow (entries : List (Scalar × Value)) (seen : List String) (node : Value) : Option Value :=
  match ref? node with
  | none => if node.isMap then some node else none
  | some ref =>
    let key := pointerKey ref.display
    if _new : key ∈ seen then none
    else
      match _found : Value.member? key entries with
      | none => none
      | some target => follow entries (key :: seen) target
termination_by ((textKeys entries).filter fun k => k ∉ seen).length
decreasing_by exact outside_lt (mem_textKeys _found) _new

/-- The mapping that a node stands for. The table is looked at only if the node is
a reference. -/
def target (table node : Value) : Attempt (Option Value) :=
  if isReference node then (fieldsOf table).map fun entries => follow entries [] node
  else .ok (if node.isMap then some node else none)

end SdkBlueprint.Services
