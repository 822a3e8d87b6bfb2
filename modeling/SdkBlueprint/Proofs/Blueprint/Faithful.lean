import SdkBlueprint.CommandLine.Run
import SdkBlueprint.Proofs.Blueprint.Json
import SdkBlueprint.Proofs.Document.JsonWriter

/-! Faithful JSON forms. Nothing of a blueprint is lost in its form: the sort of a type is told by a
field of its own, what is absent is null, and all else is kept in its order. Nor is anything lost
when the form is written, as long as no parameter of a validator is the number that equals none. -/
namespace SdkBlueprint
open SdkBlueprint.Document SdkBlueprint.Document.Json

section Forms

variable {s t : String} {fields fields' : List (String × Value)}

@[simp] theorem fieldsValue_inj : fieldsValue fields = fieldsValue fields' ↔ fields = fields' := by
  have keep : Function.Injective fun f : String × Value => (Scalar.text f.1, f.2) := by
    rintro ⟨k, v⟩ ⟨l, w⟩ same
    simpa using same
  rw [fieldsValue, fieldsValue, Value.map.injEq]
  exact (List.map_injective_iff.mpr keep).eq_iff

@[simp] theorem text_inj : Value.text s = Value.text t ↔ s = t := by simp [Value.text]

theorem text_injective : Function.Injective Value.text := fun _ _ => text_inj.mp

@[simp] theorem boolValue_inj {a b : Bool} : boolValue a = boolValue b ↔ a = b := by
  simp [boolValue]

@[simp] theorem textOrNull_inj {a b : Option String} : textOrNull a = textOrNull b ↔ a = b := by
  cases a <;> cases b <;> simp [textOrNull, Value.text, Value.null]

/-- Tables with one form for all their entries are the same. -/
theorem entries_inj {α : Type} {form : α → Value} (told : Function.Injective form)
    {xs ys : Table α} :
    (xs.entries.map fun e => (e.1, form e.2)) = (ys.entries.map fun e => (e.1, form e.2)) ↔
      xs = ys := by
  have entry : Function.Injective fun e : String × α => (e.1, form e.2) :=
    Function.injective_id.prodMap told
  rw [(List.map_injective_iff.mpr entry).eq_iff]
  exact ⟨Table.ext_entries, fun same => same ▸ rfl⟩

end Forms

section Labels

theorem Composition.label_injective : Function.Injective Composition.label := by
  intro c d
  cases c <;> cases d <;> simp [label]

theorem Shape.label_injective : Function.Injective Shape.label := by
  intro s t
  cases s <;> cases t <;> simp [label]

theorem HttpMethod.label_injective : Function.Injective HttpMethod.label := by
  intro m n
  cases m <;> cases n <;> simp [label]

theorem ParameterPlace.label_injective : Function.Injective ParameterPlace.label := by
  intro p q
  cases p <;> cases q <;> simp [label]

theorem ResponseKind.label_injective : Function.Injective ResponseKind.label := by
  intro k l
  cases k <;> cases l <;> simp [label]

end Labels

namespace TypeExpr

mutual

/-- The kind tells named types from composites, and a composite's members are told by their own
forms in their order; that it is primitive follows from them. -/
theorem eq_of_toValue : (t u : TypeExpr) → t.toValue = u.toValue → t = u
  | .named t, .named u, same => by
      obtain ⟨name, isArray, isPrimitive, isDictionary, isLiteral⟩ := t
      obtain ⟨name', isArray', isPrimitive', isDictionary', isLiteral'⟩ := u
      simpa [toValue] using same
  | .named t, .composite members composition isArray isDictionary, same => by
      simp [toValue] at same
  | .composite members composition isArray isDictionary, .named t, same => by
      simp [toValue] at same
  | .composite members composition isArray isDictionary,
      .composite members' composition' isArray' isDictionary', same => by
      simp only [toValue, fieldsValue_inj, List.cons.injEq, Prod.mk.injEq, Value.list.injEq,
        text_inj, boolValue_inj, true_and] at same
      obtain ⟨forms, label, rfl, rfl, -⟩ := same
      rw [eq_of_toValues members members' forms, Composition.label_injective label]

theorem eq_of_toValues : (ts us : List TypeExpr) → toValues ts = toValues us → ts = us
  | [], [], _ => rfl
  | [], _ :: _, same => by simp [toValues] at same
  | _ :: _, [], same => by simp [toValues] at same
  | t :: ts, u :: us, same => by
      obtain ⟨first, rest⟩ := List.cons.inj same
      rw [eq_of_toValue t u first, eq_of_toValues ts us rest]

end

theorem toValue_injective : Function.Injective toValue := fun t u => eq_of_toValue t u

end TypeExpr

theorem Param.scalar_injective : Function.Injective Param.scalar := by
  intro p q
  cases p <;> cases q <;> simp [Param.scalar]

theorem Param.scalar_ne_null (p : Param) : p.scalar ≠ .null := by cases p <;> exact nofun

theorem Validator.toValue_injective : Function.Injective Validator.toValue := by
  rintro ⟨kind, param⟩ ⟨kind', param'⟩ same
  simp only [toValue, fieldsValue_inj, List.cons.injEq, Prod.mk.injEq, text_inj, true_and,
    and_true] at same
  obtain ⟨label, form⟩ := same
  rw [ValidatorKind.label_injective label]
  cases param with
  | none =>
      cases param' with
      | none => rfl
      | some q => exact absurd (Value.scalar.inj form).symm q.scalar_ne_null
  | some p =>
      cases param' with
      | none => exact absurd (Value.scalar.inj form) p.scalar_ne_null
      | some q => rw [Param.scalar_injective (Value.scalar.inj form)]

theorem Discriminator.toValue_injective : Function.Injective Discriminator.toValue := by
  rintro ⟨name, mapping⟩ ⟨name', mapping'⟩ same
  simpa [toValue, entries_inj text_injective] using same

theorem Discriminator.toValue_ne_null (d : Discriminator) : d.toValue ≠ .null := nofun

theorem Property.toValue_injective : Function.Injective Property.toValue := by
  rintro ⟨name, type, isOptional, isReadonly, description, validators, discriminator⟩
    ⟨name', type', isOptional', isReadonly', description', validators', discriminator'⟩ same
  simp only [toValue, fieldsValue_inj, List.cons.injEq, Prod.mk.injEq, text_inj, boolValue_inj,
    textOrNull_inj, Value.list.injEq, true_and, and_true, TypeExpr.toValue_injective.eq_iff,
    (List.map_injective_iff.mpr Validator.toValue_injective).eq_iff] at same
  obtain ⟨rfl, rfl, rfl, rfl, rfl, rfl, form⟩ := same
  cases discriminator with
  | none =>
      cases discriminator' with
      | none => rfl
      | some d => exact absurd form.symm d.toValue_ne_null
  | some d =>
      cases discriminator' with
      | none => exact absurd form d.toValue_ne_null
      | some d' => rw [Discriminator.toValue_injective form]

theorem SubType.toValue_injective : Function.Injective SubType.toValue := by
  rintro ⟨name, value⟩ ⟨name', value'⟩ same
  simpa [toValue] using same

theorem Model.toValue_injective : Function.Injective Model.toValue := by
  intro m m' same
  obtain ⟨key, name, fileName, shape, isEnum, enumValues, properties, description, parent,
    discriminator, subTypes⟩ := m
  obtain ⟨key', name', fileName', shape', isEnum', enumValues', properties', description', parent',
    discriminator', subTypes'⟩ := m'
  simp only [toValue, fieldsValue_inj, List.cons.injEq, Prod.mk.injEq, text_inj, boolValue_inj,
    textOrNull_inj, Value.list.injEq, true_and, and_true, Shape.label_injective.eq_iff,
    (List.map_injective_iff.mpr Property.toValue_injective).eq_iff,
    (List.map_injective_iff.mpr SubType.toValue_injective).eq_iff] at same
  obtain ⟨rfl, rfl, rfl, rfl, rfl, form, rfl, rfl, rfl, rfl, rfl⟩ := same
  cases enumValues with
  | none =>
      cases enumValues' with
      | none => rfl
      | some vs => cases form
  | some vs =>
      cases enumValues' with
      | none => cases form
      | some ws => rw [List.map_injective_iff.mpr text_injective (Value.list.inj form)]

theorem Parameter.toValue_injective : Function.Injective Parameter.toValue := by
  rintro ⟨name, type, place, isRequired, description⟩
    ⟨name', type', place', isRequired', description'⟩ same
  simpa [toValue, TypeExpr.toValue_injective.eq_iff, ParameterPlace.label_injective.eq_iff]
    using same

theorem Operation.toValue_injective : Function.Injective Operation.toValue := by
  intro o o' same
  obtain ⟨operationId, methodName, path, method, parameters, returnType, summary, description,
    deprecated, requestContentType, acceptHeader, responseKind⟩ := o
  obtain ⟨operationId', methodName', path', method', parameters', returnType', summary',
    description', deprecated', requestContentType', acceptHeader', responseKind'⟩ := o'
  simpa [toValue, TypeExpr.toValue_injective.eq_iff, HttpMethod.label_injective.eq_iff,
    (List.map_injective_iff.mpr Parameter.toValue_injective).eq_iff,
    (Option.map_injective ResponseKind.label_injective).eq_iff] using same

theorem Service.toValue_injective : Function.Injective Service.toValue := by
  rintro ⟨name, operations⟩ ⟨name', operations'⟩ same
  simpa [toValue, entries_inj Operation.toValue_injective] using same

theorem Info.toValue_injective : Function.Injective Info.toValue := by
  rintro ⟨title, version⟩ ⟨title', version'⟩ same
  simpa [toValue] using same

theorem Blueprint.toValue_injective : Function.Injective Blueprint.toValue := by
  rintro ⟨info, models, services⟩ ⟨info', models', services'⟩ same
  simpa [toValue, Info.toValue_injective.eq_iff,
    (List.map_injective_iff.mpr Model.toValue_injective).eq_iff,
    (List.map_injective_iff.mpr Service.toValue_injective).eq_iff] using same

/-- Blueprints with one JSON form are identical, and so are types, however deeply they are nested.
And if no parameter is the number that equals none, blueprints are identical whose written results
are, on one line or indented. -/
theorem blueprint_told_by_json (a b : Blueprint) :
    (a.toValue = b.toValue ↔ a = b) ∧ (∀ t u : TypeExpr, t.toValue = u.toValue ↔ t = u) ∧
      (a.FloatsIn IsNumber → b.FloatsIn IsNumber → ∀ indent,
        (CommandLine.payload indent a = CommandLine.payload indent b ↔ a = b)) := by
  refine ⟨Blueprint.toValue_injective.eq_iff, fun t u => TypeExpr.toValue_injective.eq_iff,
    fun ha hb indent => ⟨fun same => ?_, fun same => same ▸ rfl⟩⟩
  exact Blueprint.toValue_injective
    ((Blueprint.toValue_json ha).eq_of_write (Blueprint.toValue_json hb) same)

/-- A blueprint with one property, whose values have a least one. -/
def boundedBlueprint (least : Param) : Blueprint where
  info := ⟨none, none⟩
  models := [{
    Model.skeleton "Cat" "Cat" "cat" false none with
    properties := [⟨"age", .primitive "number", true, false, none, [⟨.min, some least⟩], none⟩] }]
  services := []

/-- A bound that is written as an integer is told from the float of its value. -/
theorem blueprint_told_boundedBlueprint :
    (boundedBlueprint (.int 1)).FloatsIn IsNumber ∧
      (boundedBlueprint (.float (.ofDecimal false 1 1 0))).FloatsIn IsNumber ∧
      CommandLine.payload 2 (boundedBlueprint (.int 1)) ≠
        CommandLine.payload 2 (boundedBlueprint (.float (.ofDecimal false 1 1 0))) := by
  have numeric : ∀ least : Param, (∀ x, least = .float x → x.isNaN = false) →
      (boundedBlueprint least).FloatsIn IsNumber := by
    intro least number m hm p hp v hv x given
    cases List.mem_singleton.mp hm
    cases List.mem_singleton.mp hp
    cases List.mem_singleton.mp hv
    exact number x (Option.some.inj given)
  have integer := numeric (.int 1) nofun
  have float := numeric (.float (.ofDecimal false 1 1 0)) fun x same => by
    cases same
    decide +kernel
  refine ⟨integer, float, fun same => ?_⟩
  have equal := ((blueprint_told_by_json _ _).2.2 integer float 2).mp same
  simp [boundedBlueprint, Model.skeleton] at equal

end SdkBlueprint
