import Mathlib.Logic.Relation
import SdkBlueprint.Proofs.Population.Property

/-! Which schemas compose which, and what a model is finished as. A finished model is
determined by its schema and by the finished models that the schema composes, whenever
and in whatever order they were made. -/
namespace SdkBlueprint.Population
open SdkBlueprint.Document SdkBlueprint.Schema Relation

section Edges

variable (schemas : Table Value)

/-- The schema of a key as a mapping; a key without one has an empty schema. -/
def schemaAt (key : String) : Value := schemaMap ((schemas.get? key).getD .null)

/-- The `allOf` members of a schema that is built as a composition. -/
def composedMembers (schema : Value) : List Value :=
  if classify schema = .composed then itemsOf (schema.field "allOf") else []

/-- Some member of the composition is a reference that leads to the target. -/
def Refers (key target : String) : Prop :=
  ∃ m ∈ composedMembers (schemaAt schemas key), ∃ ref,
    ref? m = some ref ∧ targetKey ref = .ok target

/-- An edge of the composition graph: a reference to a key that is registered. -/
def Composes (key target : String) : Prop := target ∈ schemas.names ∧ Refers schemas key target

/-- Some schema composes itself, directly or through others. -/
def Cyclic : Prop := ∃ key, TransGen (Composes schemas) key key

end Edges

section Reading

variable (schemas : Table Value) (nameOf : String → String) (look : String → Model)

/-- Takes up a finished model: as the parent when it is the first member, as a mixin later. -/
def takeUp (current : String) (isFirst : Bool) (f : Flattening) (model : Model) :
    Logged Flattening :=
  if isFirst then return { f with parent := some model.name }
  else
    Flattening.addProperties current model.name
      { f with mixins := f.mixins ++ [model.name] } model.properties

/-- Takes up a reference to a model that can be read. -/
def readReference (current : String) (isFirst : Bool) (f : Flattening) (ref : Value) :
    Logged Flattening := do
  let target ← Logged.attempt (targetKey ref)
  if target ∈ schemas.names then takeUp current isFirst f (look target)
  else
    Logged.warn .composition .missingReference (missingMessage target current) current
    return f

def readMember (current : String) (isFirst : Bool) (f : Flattening) (member : Value) :
    Logged Flattening :=
  match ref? member with
  | some ref => readReference schemas look current isFirst f ref
  | none => if member.isMap then f.addInline nameOf current member else pure f

def readMembers (current : String) (isFirst : Bool) (f : Flattening) :
    List Value → Logged Flattening
  | [] => pure f
  | member :: rest => do
    let f ← readMember schemas nameOf look current isFirst f member
    readMembers current false f rest

def readAllOf (current : String) (allOf : Value) : Logged Flattening := do
  let members ← Logged.attempt (iterate allOf)
  let f ← readMembers schemas nameOf look current true Flattening.empty members
  return f.withRequired

def readClass (model : Model) (schema : Value) (shape : Shape) : Logged Model := do
  let f ←
    if shape == .composed then readAllOf schemas nameOf look model.key (schema.field "allOf")
    else pure Flattening.empty
  let own ← ownProperties nameOf schema model.key
  pure
    { model with
      shape := shape
      isEnum := false
      properties := (override f.properties own).values
      parent := f.parent }

/-- The model of a schema when all that it composes can be read. -/
def readModel (model : Model) (schema : Value) : Logged Model :=
  match classify schema with
  | .enumeration => Logged.attempt (finishedEnumeration model schema)
  | .union => finishedUnion nameOf model schema
  | shape => readClass schemas nameOf look model schema shape

end Reading

section Agreement

variable {schemas schemas' : Table Value} (nameOf : String → String) {look look' : String → Model}

theorem readReference_congr (registered : ∀ t, t ∈ schemas.names ↔ t ∈ schemas'.names)
    {ref : Value} (same : ∀ t ∈ schemas.names, targetKey ref = .ok t → look t = look' t)
    (current : String) (isFirst : Bool) (f : Flattening) :
    readReference schemas look current isFirst f ref =
      readReference schemas' look' current isFirst f ref := by
  unfold readReference
  cases ht : targetKey ref with
  | error failure => rw [Logged.attempt_error_bind, Logged.attempt_error_bind]
  | ok target =>
      rw [Logged.attempt_ok_bind, Logged.attempt_ok_bind]
      by_cases hr : target ∈ schemas.names
      · rw [if_pos hr, if_pos ((registered target).mp hr), same target hr ht]
      · rw [if_neg hr, if_neg fun h => hr ((registered target).mpr h)]

theorem readMembers_congr (registered : ∀ t, t ∈ schemas.names ↔ t ∈ schemas'.names)
    (current : String) {members : List Value}
    (same : ∀ m ∈ members, ∀ ref, ref? m = some ref →
      ∀ t ∈ schemas.names, targetKey ref = .ok t → look t = look' t)
    (isFirst : Bool) (f : Flattening) :
    readMembers schemas nameOf look current isFirst f members =
      readMembers schemas' nameOf look' current isFirst f members := by
  induction members generalizing isFirst f with
  | nil => rfl
  | cons m rest ih =>
      have first : readMember schemas nameOf look current isFirst f m =
          readMember schemas' nameOf look' current isFirst f m := by
        unfold readMember
        cases href : ref? m with
        | none => rfl
        | some ref => exact readReference_congr registered (same m (by simp) ref href) _ _ _
      simp only [readMembers, first]
      congr 1
      funext g
      exact ih (fun n hn => same n (by simp [hn])) false g

theorem isMap_of_ref? {v ref : Value} (h : ref? v = some ref) : v.isMap := by
  cases v with
  | map entries => rfl
  | _ => cases h

theorem mem_itemsOf_of_isMap {v : Value} {members : List Value} (hi : iterate v = .ok members)
    {m : Value} (hm : m ∈ members) (hmap : m.isMap) : m ∈ itemsOf v := by
  have scalars : ∀ s : Scalar, .scalar s ≠ m := by
    rintro s rfl
    cases hmap
  unfold iterate at hi
  split at hi
  · next items he =>
      cases hi
      unfold Value.elements? at he
      split at he
      case h_1 => exact Option.some.inj he ▸ hm
      case h_6 => cases he
      all_goals
        rw [← Option.some.inj he] at hm
        obtain ⟨x, _, hx⟩ := List.mem_map.mp hm
        exact absurd hx (scalars _)
  · cases hi

theorem mem_of_mem_itemsOf {v : Value} {members : List Value} (hi : iterate v = .ok members)
    {m : Value} (hm : m ∈ itemsOf v) : m ∈ members := by
  cases v with
  | list items => exact Except.ok.inj hi ▸ hm
  | _ => cases hm

theorem readAllOf_congr (registered : ∀ t, t ∈ schemas.names ↔ t ∈ schemas'.names)
    (current : String) {allOf : Value}
    (same : ∀ m ∈ itemsOf allOf, ∀ ref, ref? m = some ref →
      ∀ t ∈ schemas.names, targetKey ref = .ok t → look t = look' t) :
    readAllOf schemas nameOf look current allOf =
      readAllOf schemas' nameOf look' current allOf := by
  unfold readAllOf
  cases hi : iterate allOf with
  | error failure => rw [Logged.attempt_error_bind, Logged.attempt_error_bind]
  | ok members =>
      have agree := readMembers_congr nameOf registered current
        (fun m hm ref href => same m (mem_itemsOf_of_isMap hi hm (isMap_of_ref? href)) ref href)
        true Flattening.empty
      rw [Logged.attempt_ok_bind, Logged.attempt_ok_bind, agree]

theorem readModel_congr (registered : ∀ t, t ∈ schemas.names ↔ t ∈ schemas'.names)
    (model : Model) {schema : Value}
    (same : ∀ m ∈ composedMembers schema, ∀ ref, ref? m = some ref →
      ∀ t ∈ schemas.names, targetKey ref = .ok t → look t = look' t) :
    readModel schemas nameOf look model schema = readModel schemas' nameOf look' model schema := by
  have agree : classify schema = .composed →
      readAllOf schemas nameOf look model.key (schema.field "allOf") =
        readAllOf schemas' nameOf look' model.key (schema.field "allOf") := by
    intro hc
    rw [composedMembers, if_pos hc] at same
    exact readAllOf_congr nameOf registered model.key same
  cases hc : classify schema with
  | enumeration => simp only [readModel, hc]
  | union => simp only [readModel, hc]
  | composed => simp only [readModel, readClass, hc, agree hc]
  | object =>
      have plain : (Shape.object == Shape.composed) = false := rfl
      simp only [readModel, readClass, hc, plain, Bool.false_eq_true, if_false]

end Agreement

/-- A model that population stores, with what its own build notes. -/
structure Product where
  key : String
  model : Model
  notes : Journal

def populatedRemark (m : Model) : Entry := .remark .population .debug (populatedMessage m)

/-- A product is built from the products of the schemas that its schema composes. -/
inductive Built (schemas : Table Value) (nameOf : String → String) (start : Table Model) :
    Product → Prop
  | intro {p : Product} {skeleton : Model} {notes : Journal} (part : String → Product)
      (declared : start.get? p.key = some skeleton)
      (keys : ∀ t, Composes schemas p.key t → (part t).key = t)
      (parts : ∀ t, Composes schemas p.key t → Built schemas nameOf start (part t))
      (made : (readModel schemas nameOf (fun t => (part t).model) skeleton
        (schemaAt schemas p.key)).run [] = (.ok p.model, notes))
      (noted : p.notes = notes ++ [populatedRemark p.model]) : Built schemas nameOf start p

namespace Built

variable {schemas schemas' : Table Value} {nameOf : String → String} {start start' : Table Model}

/-- A key has one product. -/
theorem unique {p q : Product} (hp : Built schemas nameOf start p)
    (hq : Built schemas nameOf start q) (same : p.key = q.key) : p = q := by
  induction hp generalizing q with
  | @intro p skeleton notes part declared keys parts made noted ih =>
      cases hq with
      | @intro _ skeleton' notes' part' declared' keys' parts' made' noted' =>
          rw [same] at declared made keys parts ih
          have hs : skeleton = skeleton' := Option.some.inj (declared.symm.trans declared')
          subst hs
          have agree :
              readModel schemas nameOf (fun t => (part t).model) skeleton (schemaAt schemas q.key) =
                readModel schemas nameOf (fun t => (part' t).model) skeleton
                  (schemaAt schemas q.key) := by
            refine readModel_congr nameOf (fun _ => Iff.rfl) skeleton ?_
            intro m hm ref href t ht hk
            have edge : Composes schemas q.key t := ⟨ht, m, hm, ref, href, hk⟩
            exact congrArg Product.model
              (ih t edge (parts' t edge) ((keys t edge).trans (keys' t edge).symm))
          rw [agree, made'] at made
          obtain ⟨pk, pm, pn⟩ := p
          obtain ⟨qk, qm, qn⟩ := q
          obtain ⟨hm, hn⟩ := Prod.mk.inj made
          have hmodel : qm = pm := Except.ok.inj hm
          simp only at same noted noted'
          rw [noted, noted', same, hmodel, hn]

end Built

end SdkBlueprint.Population
