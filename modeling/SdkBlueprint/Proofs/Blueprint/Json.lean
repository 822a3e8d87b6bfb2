import Mathlib.Data.List.Basic
import SdkBlueprint.Blueprint.Basic
import SdkBlueprint.Proofs.Document.JsonForm

/-! Blueprints as JSON. The only floats of a blueprint are the parameters of validators, and its
text ends with the brace that closes it. -/
namespace SdkBlueprint
open SdkBlueprint.Document SdkBlueprint.Document.Json SdkBlueprint.Number

section Forms

variable {floats : Binary64 → Prop}

mutual

theorem TypeExpr.toValue_json : (t : TypeExpr) → JsonWith floats t.toValue
  | .named t => .fields (by simp)
  | .composite members composition isArray isDictionary => by
      have inner : JsonWith floats (.list (toValues members)) := .list (toValues_json members)
      exact .fields (by simp [inner])

theorem TypeExpr.toValues_json : (ts : List TypeExpr) → ∀ v ∈ toValues ts, JsonWith floats v
  | [] => nofun
  | t :: rest => List.forall_mem_cons.mpr ⟨t.toValue_json, toValues_json rest⟩

end

/-- If the parameter is a float, it is one of the sort. -/
def Validator.FloatsIn (floats : Binary64 → Prop) (v : Validator) : Prop :=
  ∀ x, v.param = some (.float x) → floats x

theorem Validator.toValue_json {v : Validator} (h : v.FloatsIn floats) :
    JsonWith floats v.toValue := by
  obtain ⟨kind, param⟩ := v
  cases param with
  | none => exact .fields (by simp)
  | some p =>
      have param : JsonWith floats (.scalar p.scalar) := by
        cases p with
        | int n => exact .word trivial
        | float x => exact .word (h x rfl)
        | text s => exact .text s
      exact .fields (by simp [param])

theorem Discriminator.toValue_json (d : Discriminator) : JsonWith floats d.toValue := by
  have mapping : JsonWith floats (fieldsValue (d.mapping.entries.map fun e => (e.1, .text e.2))) :=
    .fieldsMap fun e _ => .text e.2
  exact .fields (by simp [mapping])

def Property.FloatsIn (floats : Binary64 → Prop) (p : Property) : Prop :=
  ∀ v ∈ p.validators, v.FloatsIn floats

theorem Property.toValue_json {p : Property} (h : p.FloatsIn floats) :
    JsonWith floats p.toValue := by
  have validators := JsonWith.listMap fun v hv => Validator.toValue_json (h v hv)
  cases hd : p.discriminator with
  | none => exact .fields (by simp [hd, p.type.toValue_json, validators])
  | some d => exact .fields (by simp [hd, p.type.toValue_json, validators, d.toValue_json])

def Model.FloatsIn (floats : Binary64 → Prop) (m : Model) : Prop :=
  ∀ p ∈ m.properties, p.FloatsIn floats

theorem Model.toValue_json {m : Model} (h : m.FloatsIn floats) : JsonWith floats m.toValue := by
  have properties := JsonWith.listMap fun p hp => Property.toValue_json (h p hp)
  have subTypes : JsonWith floats (.list (m.subTypes.map SubType.toValue)) :=
    .listMap fun s _ => .fields (by simp)
  cases hv : m.enumValues with
  | none => exact .fields (by simp [hv, properties, subTypes])
  | some values =>
      have labels : JsonWith floats (.list (values.map .text)) := .listMap fun s _ => .text s
      exact .fields (by simp [hv, properties, subTypes, labels])

theorem Operation.toValue_json (o : Operation) : JsonWith floats o.toValue := by
  have parameters : JsonWith floats (.list (o.parameters.map Parameter.toValue)) :=
    .listMap fun p _ => .fields (by simp [p.type.toValue_json])
  exact .fields (by simp [parameters, o.returnType.toValue_json])

theorem Service.toValue_json (s : Service) : JsonWith floats s.toValue := by
  have operations :
      JsonWith floats (fieldsValue (s.operations.entries.map fun e => (e.1, e.2.toValue))) :=
    .fieldsMap fun e _ => e.2.toValue_json
  exact .fields (by simp [operations])

/-- All floats among the parameters of validators are of the sort. -/
def Blueprint.FloatsIn (floats : Binary64 → Prop) (b : Blueprint) : Prop :=
  ∀ m ∈ b.models, m.FloatsIn floats

theorem Blueprint.toValue_json {b : Blueprint} (h : b.FloatsIn floats) :
    JsonWith floats b.toValue := by
  have info : JsonWith floats b.info.toValue := .fields (by simp)
  have models := JsonWith.listMap fun m hm => Model.toValue_json (h m hm)
  have services : JsonWith floats (.list (b.services.map Service.toValue)) :=
    .listMap fun s _ => s.toValue_json
  exact .fields (by simp [info, models, services])

end Forms

theorem bracket_getLast? (layout : Layout) (level : Nat) (openChar closeChar : Char)
    (items : List (List Char)) :
    (bracket layout level openChar closeChar items).getLast? = some closeChar := by
  unfold bracket
  split
  · rfl
  · exact List.getLast?_append_of_ne_nil _ (List.cons_ne_nil closeChar [])

/-- The text of a blueprint ends with a brace, whatever the layout. -/
theorem Blueprint.write_getLast? (layout : Layout) (b : Blueprint) :
    (Json.write layout b.toValue).toList.getLast? = some '\x7d' := by
  rw [Json.write, String.toList_ofList, Blueprint.toValue, fieldsValue, chars]
  exact bracket_getLast? _ _ _ _ _

end SdkBlueprint
