import SdkBlueprint.Schema.Facets
import SdkBlueprint.Schema.Resolution

/-! Well-typed schemas. A field that is read is absent, null or of the type that the
format gives it, and bounds and literals can be written as text; nothing is asked of a
field that is never read. -/
namespace SdkBlueprint.Schema
open SdkBlueprint.Document

/-- The items of a list, none of anything else. -/
def itemsOf : Value → List Value
  | .list items => items
  | _ => []

/-- The entries of a mapping, none of anything else. -/
def entriesOf : Value → List (Scalar × Value)
  | .map entries => entries
  | _ => []

def isTextOrNull (v : Value) : Bool := v.isNull || v.textOf?.isSome

/-- Null or a number, of integers one that can be written. -/
def isNumberOrNull : Value → Bool
  | .scalar .null => true
  | .scalar (.int n) => !Scalar.isLong (.int n)
  | .scalar (.float _) => true
  | _ => false

def isListOrNull : Value → Bool
  | .scalar .null => true
  | .list _ => true
  | _ => false

def isMapOrNull : Value → Bool
  | .scalar .null => true
  | .map _ => true
  | _ => false

/-- Null or a list of texts. -/
def isTextList (v : Value) : Bool := isListOrNull v && (itemsOf v).all fun m => m.textOf?.isSome

/-- Null or a list of values that can be written as JSON. -/
def isLiteralList (v : Value) : Bool :=
  isListOrNull v && (itemsOf v).all fun m => (Json.fault? m).isNone

/-- A type is a text or a list of texts. -/
def isTypeName (v : Value) : Bool := isTextOrNull v || isTextList v

/-- A reference, where there is one, is a text. -/
def TypedReference (v : Value) : Prop := ∀ ref, ref? v = some ref → ref.textOf?.isSome

/-- The fields of a node that decide its type. -/
structure NodeFields (v : Value) : Prop where
  reference : TypedReference v
  allOf : isListOrNull (v.field "allOf")
  oneOf : isListOrNull (v.field "oneOf")
  type : isTypeName (v.field "type")
  enum : isLiteralList (v.field "enum")
  title : isTextOrNull (v.field "title")

/-- A node whose type can be read: so are the nodes that it leads to. -/
inductive TypedNode : Value → Prop
  | other {v : Value} (plain : v.isMap = false) : TypedNode v
  | node {v : Value} (fields : NodeFields v)
      (allOf : ∀ m ∈ itemsOf (v.field "allOf"), TypedNode m)
      (oneOf : ∀ m ∈ itemsOf (v.field "oneOf"), TypedNode m)
      (items : TypedNode (v.field "items"))
      (additional : TypedNode (v.field "additionalProperties")) : TypedNode v

/-- The fields that make a union: references and a discriminator. -/
structure TypedUnion (v : Value) : Prop where
  oneOf : isListOrNull (v.field "oneOf")
  references : ∀ m ∈ itemsOf (v.field "oneOf"), TypedReference m
  discriminator : isMapOrNull (v.field "discriminator")
  propertyName : isTextOrNull ((v.field "discriminator").field "propertyName")
  mapping : isMapOrNull ((v.field "discriminator").field "mapping")

/-- The fields of validation facts. -/
structure TypedFacets (v : Value) : Prop where
  minLength : isNumberOrNull (v.field "minLength")
  maxLength : isNumberOrNull (v.field "maxLength")
  minimum : isNumberOrNull (v.field "minimum")
  maximum : isNumberOrNull (v.field "maximum")
  pattern : isTextOrNull (v.field "pattern")
  format : isTextOrNull (v.field "format")

structure TypedProperty (v : Value) : Prop where
  node : TypedNode v
  union : TypedUnion v
  facets : TypedFacets v
  description : isTextOrNull (v.field "description")

/-- The fields of a class: its properties and which of them it requires. -/
structure TypedClass (v : Value) : Prop where
  properties : isMapOrNull (v.field "properties")
  names : ∀ e ∈ entriesOf (v.field "properties"), ∃ name, e.1 = .text name
  values : ∀ e ∈ entriesOf (v.field "properties"), TypedProperty e.2
  required : isTextList (v.field "required")

/-- A member of a composition is a reference or declares properties of its own. -/
structure TypedMember (v : Value) : Prop where
  reference : TypedReference v
  inline : isReference v = false → TypedClass v

structure TypedComponent (v : Value) : Prop where
  description : isTextOrNull (v.field "description")
  enum : isLiteralList (v.field "enum")
  union : TypedUnion v
  ownFields : TypedClass v
  allOf : isListOrNull (v.field "allOf")
  members : ∀ m ∈ itemsOf (v.field "allOf"), TypedMember m

/-- Component schemas all of whose fields have their types. -/
def TypedSchemas (schemas : Table Value) : Prop := ∀ e ∈ schemas.entries, TypedComponent e.2

@[simp] theorem field_of_not_map {v : Value} (h : v.isMap = false) (name : String) :
    v.field name = .null := by
  cases v with
  | map entries => cases h
  | _ => rfl

@[simp] theorem field_schemaMap (v : Value) (name : String) :
    (schemaMap v).field name = v.field name := by
  cases v with
  | map entries => rfl
  | _ => rfl

theorem field?_eq_some {v w : Value} {name : String} (h : v.field? name = some w) :
    v.field name = w := by
  simp only [Value.field, h, Option.getD_some]

theorem text_of_isSome {v : Value} (h : v.textOf?.isSome) : ∃ s, v = .text s := by
  obtain ⟨s, hs⟩ := Option.isSome_iff_exists.mp h
  unfold Value.textOf? at hs
  split at hs
  · exact ⟨_, rfl⟩
  · cases hs

theorem eq_null_of_isNull {v : Value} (h : v.isNull) : v = .null := by
  unfold Value.isNull at h
  split at h
  · rfl
  · cases h

theorem textOrNull_cases {v : Value} (h : isTextOrNull v) : v = .null ∨ ∃ s, v = .text s := by
  rw [isTextOrNull, Bool.or_eq_true] at h
  exact h.imp eq_null_of_isNull text_of_isSome

theorem listOrNull_cases {v : Value} (h : isListOrNull v) :
    v = .null ∨ ∃ items, v = .list items := by
  unfold isListOrNull at h
  split at h
  · exact .inl rfl
  · exact .inr ⟨_, rfl⟩
  · cases h

theorem mapOrNull_cases {v : Value} (h : isMapOrNull v) :
    v = .null ∨ ∃ entries, v = .map entries := by
  unfold isMapOrNull at h
  split at h
  · exact .inl rfl
  · exact .inr ⟨_, rfl⟩
  · cases h

theorem iterate_ne_nil {v : Value} (h : v.truthy = true) {items : List Value}
    (hi : iterate v = .ok items) : items ≠ [] := by
  unfold iterate at hi
  split at hi
  · next items' he =>
    cases hi
    cases v with
    | list xs =>
        cases he
        simpa [Value.truthy] using h
    | map es =>
        cases he
        simpa [Value.truthy] using h
    | set ms =>
        cases he
        simpa [Value.truthy] using h
    | scalar s =>
        cases s with
        | text t =>
            cases he
            simpa [Value.truthy, Scalar.truthy] using h
        | bytes b =>
            cases he
            simpa [Value.truthy, Scalar.truthy] using h
        | _ => cases he
  · cases hi

theorem optionalText_ok (record : RecordKind) (field : String) {v : Value} (h : isTextOrNull v) :
    ∃ text, optionalText record field v = .ok text := by
  rcases textOrNull_cases h with rfl | ⟨s, rfl⟩
  · exact ⟨none, rfl⟩
  · exact ⟨some s, rfl⟩

theorem fieldsOf_isMap {v : Value} (h : v.isMap = true) : ∃ entries, fieldsOf v = .ok entries := by
  cases v with
  | map entries => exact ⟨entries, rfl⟩
  | _ => cases h

theorem fieldsOf_orEmptyMap {v : Value} (h : isMapOrNull v) :
    fieldsOf (orEmptyMap v) = .ok (entriesOf v) := by
  rcases mapOrNull_cases h with rfl | ⟨entries, rfl⟩
  · rfl
  · cases entries <;> rfl

theorem targetKey_of_typed {v ref : Value} (h : TypedReference v) (hr : ref? v = some ref) :
    ∃ s, ref = .text s ∧ targetKey ref = .ok (pointerKey s) := by
  obtain ⟨s, rfl⟩ := text_of_isSome (h ref hr)
  exact ⟨s, rfl, rfl⟩

theorem typedReference_of_not_map {v : Value} (h : v.isMap = false) : TypedReference v := by
  intro ref hr
  cases v with
  | map entries => cases h
  | _ => cases hr

theorem typedReference_of_absent {v : Value} (h : ref? v = none) : TypedReference v := by
  intro ref hr
  cases h.symm.trans hr

theorem TypedMember.of_reference {v : Value} (h : TypedReference v) (present : isReference v) :
    TypedMember v := by
  refine ⟨h, fun inline => ?_⟩
  rw [present] at inline
  cases inline

theorem TypedClass.of_absent {v : Value} (absent : v.field "properties" = .null)
    (required : isTextList (v.field "required")) : TypedClass v := by
  refine ⟨by rw [absent]; rfl, ?_, ?_, required⟩
  all_goals
    rw [absent]
    intro e he
    cases he

theorem TypedUnion.of_absent {v : Value} (oneOf : v.field "oneOf" = .null)
    (discriminator : v.field "discriminator" = .null) : TypedUnion v := by
  constructor
  case references =>
    rw [oneOf]
    intro m hm
    cases hm
  case oneOf =>
    rw [oneOf]
    rfl
  all_goals
    rw [discriminator]
    rfl

theorem TypedNode.of_absent {v : Value} (fields : NodeFields v)
    (allOf : v.field "allOf" = .null) (oneOf : v.field "oneOf" = .null)
    (items : v.field "items" = .null) (additional : v.field "additionalProperties" = .null) :
    TypedNode v := by
  have nothing : ∀ m ∈ itemsOf .null, TypedNode m := by
    intro m hm
    cases hm
  have absent : TypedNode .null := .other rfl
  exact .node fields (allOf ▸ nothing) (oneOf ▸ nothing) (items ▸ absent) (additional ▸ absent)

namespace TypedNode

theorem fields {v : Value} (h : TypedNode v) : NodeFields v := by
  cases h with
  | node fields => exact fields
  | other plain =>
      refine ⟨typedReference_of_not_map plain, ?_, ?_, ?_, ?_, ?_⟩
      all_goals
        rw [field_of_not_map plain]
        rfl

theorem reference {v : Value} (h : TypedNode v) : TypedReference v := h.fields.reference

theorem allOf {v : Value} (h : TypedNode v) : ∀ m ∈ itemsOf (v.field "allOf"), TypedNode m := by
  cases h with
  | node _ allOf => exact allOf
  | other plain => simp [plain, itemsOf, Value.null]

theorem oneOf {v : Value} (h : TypedNode v) : ∀ m ∈ itemsOf (v.field "oneOf"), TypedNode m := by
  cases h with
  | node _ _ oneOf => exact oneOf
  | other plain => simp [plain, itemsOf, Value.null]

theorem items {v : Value} (h : TypedNode v) : TypedNode (v.field "items") := by
  cases h with
  | node _ _ _ items => exact items
  | other plain => exact .other (by rw [field_of_not_map plain]; rfl)

theorem additional {v : Value} (h : TypedNode v) : TypedNode (v.field "additionalProperties") := by
  cases h with
  | node _ _ _ _ additional => exact additional
  | other plain => exact .other (by rw [field_of_not_map plain]; rfl)

end TypedNode
end SdkBlueprint.Schema
