import SdkBlueprint.Blueprint.Json
import SdkBlueprint.Document.Json.Writer

/-! JSON values. They are made of words, texts, lists and mappings with texts for keys; the floats
among their words may be those of one sort only. -/
namespace SdkBlueprint.Document.Json
open SdkBlueprint.Number

variable {floats : Binary64 → Prop}

/-- Scalars that are written as words; of floats those of one sort. -/
def IsWord (floats : Binary64 → Prop) : Scalar → Prop
  | .null => True
  | .bool _ => True
  | .int _ => True
  | .float x => floats x
  | _ => False

inductive JsonWith (floats : Binary64 → Prop) : Value → Prop
  | word {s : Scalar} (word : IsWord floats s) : JsonWith floats (.scalar s)
  | text (s : String) : JsonWith floats (.text s)
  | list {items : List Value} (each : ∀ v ∈ items, JsonWith floats v) :
      JsonWith floats (.list items)
  | fields {fields : List (String × Value)} (each : ∀ f ∈ fields, JsonWith floats f.2) :
      JsonWith floats (fieldsValue fields)

namespace JsonWith

@[simp] theorem null : JsonWith floats .null := .word trivial

@[simp] theorem bool (b : Bool) : JsonWith floats (boolValue b) := .word trivial

attribute [simp] text

@[simp] theorem textOrNull (s : Option String) : JsonWith floats (textOrNull s) := by
  cases s with
  | none => exact null
  | some s => exact .text s

theorem listMap {α : Type} {f : α → Value} {xs : List α}
    (each : ∀ x ∈ xs, JsonWith floats (f x)) : JsonWith floats (.list (xs.map f)) := by
  refine .list fun v member => ?_
  obtain ⟨x, hx, rfl⟩ := List.mem_map.mp member
  exact each x hx

theorem fieldsMap {α : Type} {f : α → String × Value} {xs : List α}
    (each : ∀ x ∈ xs, JsonWith floats (f x).2) : JsonWith floats (fieldsValue (xs.map f)) := by
  refine .fields fun field member => ?_
  obtain ⟨x, hx, rfl⟩ := List.mem_map.mp member
  exact each x hx

end JsonWith
end SdkBlueprint.Document.Json
