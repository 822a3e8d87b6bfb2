import SdkBlueprint.Proofs.Schema.Renaming
import SdkBlueprint.Proofs.Schema.WellFormed
import SdkBlueprint.Registry.Basic

/-! Layers of containers. A schema of arrays and dictionaries around another schema has the type
of that schema with two marks: one if there is an array among the layers, one if there is a
dictionary. How many layers there are and in which order cannot be told from the type. -/
namespace SdkBlueprint
open SdkBlueprint.Document SdkBlueprint.Schema

namespace TypeExpr

/-- The type with the marks of an array and of a dictionary added to those that it has. -/
def marked (array dictionary : Bool) : TypeExpr → TypeExpr
  | .named t =>
    .named { t with
      isArray := t.isArray || array
      isPrimitive := t.isPrimitive && !dictionary
      isDictionary := t.isDictionary || dictionary }
  | .composite members composition isArray isDictionary =>
    .composite members composition (isArray || array) (isDictionary || dictionary)

theorem marked_none (t : TypeExpr) : t.marked false false = t := by
  cases t <;> simp [marked]

theorem asArray_marked (t : TypeExpr) (array dictionary : Bool) :
    (t.marked array dictionary).asArray = t.marked true dictionary := by
  cases t <;> simp [marked, asArray]

theorem asDictionary_marked (t : TypeExpr) (array dictionary : Bool) :
    (t.marked array dictionary).asDictionary = t.marked array true := by
  cases t <;> simp [marked, asDictionary]

theorem isArray_marked (t : TypeExpr) (array dictionary : Bool) :
    (t.marked array dictionary).isArray = (t.isArray || array) := by
  cases t <;> rfl

theorem isDictionary_marked (t : TypeExpr) (array dictionary : Bool) :
    (t.marked array dictionary).isDictionary = (t.isDictionary || dictionary) := by
  cases t <;> rfl

/-- Nothing but the marks themselves depends on the marks, since a dictionary is no primitive. -/
theorem WellFormed.marked_eq_iff {t : TypeExpr} (h : WellFormed t)
    {array array' dictionary dictionary' : Bool} :
    t.marked array dictionary = t.marked array' dictionary' ↔
      (t.isArray || array) = (t.isArray || array') ∧
        (t.isDictionary || dictionary) = (t.isDictionary || dictionary') := by
  constructor
  · intro same
    rw [← isArray_marked, ← isArray_marked, ← isDictionary_marked, ← isDictionary_marked, same]
    exact ⟨rfl, rfl⟩
  · rintro ⟨arrays, dictionaries⟩
    cases h with
    | @named t _ basic =>
        have primitive : (t.isPrimitive && !dictionary) = (t.isPrimitive && !dictionary') := by
          cases marked : t.isPrimitive with
          | false => rfl
          | true =>
              simp only [isDictionary, (basic marked).2, Bool.false_or] at dictionaries
              rw [dictionaries]
        simp only [isArray, isDictionary] at arrays dictionaries
        simp only [TypeExpr.marked, arrays, dictionaries, primitive]
    | literals => exact congrArg₂ (TypeExpr.composite _ _) arrays dictionaries
    | references => exact congrArg₂ (TypeExpr.composite _ _) arrays dictionaries
    | union => exact congrArg₂ (TypeExpr.composite _ _) arrays dictionaries

end TypeExpr

namespace Schema

inductive Layer where
  | array
  | dictionary
  deriving DecidableEq

def Layer.typeName : Layer → String
  | .array => "array"
  | .dictionary => "object"

/-- The field that holds the schema of the contents. -/
def Layer.field : Layer → String
  | .array => "items"
  | .dictionary => "additionalProperties"

/-- The mark that a layer leaves on a type. -/
def Layer.mark : Layer → TypeExpr → TypeExpr
  | .array => TypeExpr.asArray
  | .dictionary => TypeExpr.asDictionary

/-- The node declares a container of the given sort with the given contents, and it has nothing
that comes before its type. -/
structure Layer.Wraps (layer : Layer) (node contents : Value) : Prop where
  declared : declaredType node = .text layer.typeName
  contents : node.field? layer.field = some contents
  noReference : ref? node = none
  noAllOf : isSet node "allOf" = false
  noOneOf : isSet node "oneOf" = false

/-- The node puts layers around the other one, the outermost layer first. -/
inductive Nests : List Layer → Value → Value → Prop
  | here (node) : Nests [] node node
  | layer {layer layers node contents inner} (outer : Layer.Wraps layer node contents)
      (rest : Nests layers contents inner) : Nests (layer :: layers) node inner

/-- An object with at least one field. -/
structure Filled (node : Value) : Prop where
  isMap : node.isMap = true
  truthy : node.truthy = true

theorem truthyField?_eq_none {node : Value} {name : String} (h : isSet node name = false) :
    truthyField? node name = none := by
  unfold isSet Value.field at h
  unfold truthyField?
  cases found : node.field? name with
  | none => rfl
  | some v =>
      rw [found, Option.getD_some] at h
      simp [h]

theorem Layer.Wraps.filled {layer : Layer} {node contents : Value}
    (h : layer.Wraps node contents) : Filled node := by
  have present := h.contents
  cases node with
  | map entries =>
      refine ⟨rfl, ?_⟩
      cases entries with
      | nil => cases present
      | cons => rfl
  | _ => cases present

theorem Nests.filled {layers : List Layer} {node inner : Value} (h : Nests layers node inner)
    (filled : Filled inner) : Filled node := by
  cases h with
  | here => exact filled
  | layer outer => exact outer.filled

variable {nameOf : String → String}

theorem Layer.Wraps.formOf {layer : Layer} {node contents : Value}
    (h : layer.Wraps node contents) (filled : Filled contents) :
    formOf node = .ok (match layer with
      | .array => .array (some contents)
      | .dictionary => .dictionary (some contents)) := by
  rw [Schema.formOf, h.noReference, truthyField?_eq_none h.noAllOf,
    truthyField?_eq_none h.noOneOf]
  simp only [declaredForm, h.declared]
  have present := h.contents
  cases layer with
  | array =>
      simp only [Layer.typeName, Value.text, arrayForm]
      rw [show node.field? "items" = some contents from present]
      simp only [filled.truthy, if_true]
  | dictionary =>
      simp only [Layer.typeName, Value.text, objectForm]
      rw [show node.field? "additionalProperties" = some contents from present]
      cases contents with
      | map entries => rfl
      | _ => cases filled.isMap

/-- A layer leaves its mark on the type of its contents. -/
theorem Layer.Wraps.resolve {layer : Layer} {node contents : Value}
    (h : layer.Wraps node contents) (filled : Filled contents) :
    resolve nameOf node = (Schema.resolve nameOf contents).map layer.mark := by
  rw [resolve_eq, h.formOf filled]
  cases layer <;> rfl

theorem mark_marked (layer : Layer) (layers : List Layer) (t : TypeExpr) :
    layer.mark (t.marked (.array ∈ layers) (.dictionary ∈ layers)) =
      t.marked (.array ∈ layer :: layers) (.dictionary ∈ layer :: layers) := by
  cases layer with
  | array => simp [Layer.mark, TypeExpr.asArray_marked]
  | dictionary => simp [Layer.mark, TypeExpr.asDictionary_marked]

theorem Nests.resolve {layers : List Layer} {node inner : Value} (h : Nests layers node inner)
    (filled : Filled inner) :
    resolve nameOf node = (Schema.resolve nameOf inner).map
      (TypeExpr.marked (.array ∈ layers) (.dictionary ∈ layers)) := by
  induction h with
  | here node =>
      simp only [List.not_mem_nil, decide_false]
      cases Schema.resolve nameOf node with
      | error f => rfl
      | ok t => exact congrArg Except.ok (t.marked_none).symm
  | @layer layer layers node contents inner outer rest ih =>
      rw [outer.resolve (rest.filled filled), ih filled]
      cases Schema.resolve nameOf inner with
      | error f => rfl
      | ok t => exact congrArg Except.ok (mark_marked layer layers t)

/-- Of layers around a schema the type tells which sorts there are. It is the type of the schema
with a mark for each sort, and two stacks of layers around one schema have the same type if and
only if they have the same sorts of layers, those left aside that the type within has already. -/
theorem container_layers_marked (nameOf : String → String) {inner : Value} (filled : Filled inner) :
    (∀ layers node, Nests layers node inner →
      resolve nameOf node = (resolve nameOf inner).map
        (TypeExpr.marked (.array ∈ layers) (.dictionary ∈ layers))) ∧
    ∀ type, resolve nameOf inner = .ok type →
      ∀ layers layers' node node', Nests layers node inner → Nests layers' node' inner →
        (resolve nameOf node = resolve nameOf node' ↔
          (type.isArray = false → (.array ∈ layers ↔ .array ∈ layers')) ∧
          (type.isDictionary = false → (.dictionary ∈ layers ↔ .dictionary ∈ layers'))) := by
  refine ⟨fun layers node nests => nests.resolve filled, ?_⟩
  intro type made layers layers' node node' nests nests'
  have marks : ∀ (has : Bool) (p q : Prop) [Decidable p] [Decidable q],
      (has || decide p) = (has || decide q) ↔ (has = false → (p ↔ q)) := by
    intro has p q _ _
    cases has <;> simp
  rw [nests.resolve filled, nests'.resolve filled, made, ← marks, ← marks]
  exact Iff.trans ⟨Except.ok.inj, congrArg Except.ok⟩ (resolve_wellFormed made).marked_eq_iff

def arrayOf (contents : Value) : Value :=
  .map [(.text "type", .text "array"), (.text "items", contents)]

def dictionaryOf (contents : Value) : Value :=
  .map [(.text "type", .text "object"), (.text "additionalProperties", contents)]

theorem arrayOf_wraps (contents : Value) : Layer.array.Wraps (arrayOf contents) contents :=
  ⟨rfl, rfl, rfl, rfl, rfl⟩

theorem dictionaryOf_wraps (contents : Value) :
    Layer.dictionary.Wraps (dictionaryOf contents) contents := ⟨rfl, rfl, rfl, rfl, rfl⟩

/-- A text or a list of numbers. -/
def mixedNode : Value :=
  .map [(.text "oneOf", .list [.map [(.text "type", .text "string")],
    arrayOf (.map [(.text "type", .text "number")])])]

theorem resolve_mixedNode (nameOf : String → String) :
    resolve nameOf mixedNode = .ok (.composite
      [.primitive "string", (TypeExpr.primitive "number").asArray] .union false false) := by
  have text : resolve nameOf (.map [(.text "type", .text "string")]) =
      .ok (.primitive "string") := by
    rw [resolve_eq]
    rfl
  have number : resolve nameOf (.map [(.text "type", .text "number")]) =
      .ok (.primitive "number") := by
    rw [resolve_eq]
    rfl
  have filled : Filled (.map [(.text "type", .text "number")]) := ⟨rfl, rfl⟩
  have numbers : resolve nameOf (arrayOf (.map [(.text "type", .text "number")])) =
      .ok (TypeExpr.primitive "number").asArray := by
    rw [(arrayOf_wraps _).resolve filled, number]
    rfl
  have form : formOf mixedNode = .ok (.union [.map [(.text "type", .text "string")],
    arrayOf (.map [(.text "type", .text "number")])]) := rfl
  rw [resolve_eq, form]
  simp only [bind, Except.bind, formType, List.mapM_cons, List.mapM_nil, text, numbers]
  rfl

theorem container_layers_mixedNode :
    Filled mixedNode ∧ ∃ type, resolve id mixedNode = .ok type ∧
      type.isArray = false ∧ type.isDictionary = false ∧
      resolve id (arrayOf mixedNode) = resolve id (arrayOf (arrayOf mixedNode)) ∧
      resolve id (dictionaryOf (arrayOf mixedNode)) =
        resolve id (arrayOf (dictionaryOf mixedNode)) ∧
      resolve id (arrayOf mixedNode) ≠ resolve id (dictionaryOf (arrayOf mixedNode)) := by
  have filled : Filled mixedNode := ⟨rfl, rfl⟩
  have made := resolve_mixedNode id
  have alike := (container_layers_marked id filled).2 _ made
  have list := Nests.layer (arrayOf_wraps mixedNode) (.here _)
  have table := Nests.layer (dictionaryOf_wraps mixedNode) (.here _)
  have lists := Nests.layer (arrayOf_wraps _) list
  have listTable := Nests.layer (dictionaryOf_wraps _) list
  have tableList := Nests.layer (arrayOf_wraps _) table
  refine ⟨filled, _, made, rfl, rfl, ?_, ?_, fun same => ?_⟩
  · exact (alike _ _ _ _ list lists).mpr ⟨fun _ => by decide, fun _ => by decide⟩
  · exact (alike _ _ _ _ listTable tableList).mpr ⟨fun _ => by decide, fun _ => by decide⟩
  · have sorts := ((alike _ _ _ _ list listTable).mp same).2 rfl
    revert sorts
    decide

/-- An array and an array of arrays, and a dictionary of arrays and an array of dictionaries. -/
def layouts (contents : Value) : List Value :=
  [arrayOf contents, arrayOf (arrayOf contents), dictionaryOf (arrayOf contents),
    arrayOf (dictionaryOf contents)]

def textNode : Value := .map [(.text "type", .text "string")]

/-- Two layouts of texts have one type, and so have the other two. -/
theorem layouts_share_types :
    textNode.isMap = true ∧ textNode.truthy = true ∧
      resolve Registry.empty.nameOf textNode = .ok (.primitive "string") ∧
      resolve Registry.empty.nameOf (arrayOf textNode) =
        resolve Registry.empty.nameOf (arrayOf (arrayOf textNode)) ∧
      resolve Registry.empty.nameOf (dictionaryOf (arrayOf textNode)) =
        resolve Registry.empty.nameOf (arrayOf (dictionaryOf textNode)) ∧
      ¬ (layouts textNode).Pairwise fun node node' =>
        resolve Registry.empty.nameOf node ≠ resolve Registry.empty.nameOf node' := by
  have filled : Filled textNode := ⟨rfl, rfl⟩
  have made : resolve Registry.empty.nameOf textNode = .ok (.primitive "string") := by
    rw [resolve_eq]
    rfl
  have list := Nests.layer (arrayOf_wraps textNode) (.here _)
  have table := Nests.layer (dictionaryOf_wraps textNode) (.here _)
  have arrays : resolve Registry.empty.nameOf (arrayOf textNode) =
      resolve Registry.empty.nameOf (arrayOf (arrayOf textNode)) := by
    rw [list.resolve filled, (Nests.layer (arrayOf_wraps _) list).resolve filled]
    rfl
  have mixed : resolve Registry.empty.nameOf (dictionaryOf (arrayOf textNode)) =
      resolve Registry.empty.nameOf (arrayOf (dictionaryOf textNode)) := by
    rw [(Nests.layer (dictionaryOf_wraps _) list).resolve filled,
      (Nests.layer (arrayOf_wraps _) table).resolve filled]
    rfl
  refine ⟨rfl, rfl, made, arrays, mixed, fun apart => ?_⟩
  exact (List.pairwise_cons.mp apart).1 _ List.mem_cons_self arrays

end Schema
end SdkBlueprint
