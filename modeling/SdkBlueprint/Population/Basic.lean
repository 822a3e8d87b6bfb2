import SdkBlueprint.Population.Flattening
import SdkBlueprint.Registry.Basic

/-! Population of models. A model is built once, from its schema and from the
finished models that its schema composes; these are finished first. The chain of
compositions that led to a model is passed on, and a reference back into it is an
error. -/
namespace SdkBlueprint.Population
open SdkBlueprint.Document SdkBlueprint.Schema

def inlineMembersMessage (key : String) (count : Nat) : String :=
  s!"Union '{key}' has {count} inline oneOf member(s); only $ref members become sub-types."

def populatedMessage (m : Model) : String :=
  let name := m.name
  let shape := m.shape.label
  s!"Populated model '{name}' as {shape}"

def finishedEnumeration (model : Model) (schema : Value) : Attempt Model := do
  let values ← (← iterate (schema.field "enum")).mapM literalText
  return { model with shape := .enumeration, isEnum := true, enumValues := some values }

/-- The sub-types of a union: the targets of the discriminator's values, or all
references among the members when there is no discriminator. -/
def subTypes (nameOf : String → String) (oneOf : Value) :
    Option Discriminator → Attempt (List SubType)
  | some d => .ok (d.mapping.entries.map fun e => ⟨e.2, some e.1⟩)
  | none => (refNames nameOf oneOf).map fun names => names.map fun name => ⟨name, none⟩

def finishedUnion (nameOf : String → String) (model : Model) (schema : Value) : Logged Model := do
  let oneOf := schema.field "oneOf"
  let members ← Logged.attempt (iterate oneOf)
  let inline := members.countP fun m => !isReference m
  if inline != 0 then
    Logged.warn .population .inlineUnionMember (inlineMembersMessage model.key inline) model.key
  let disc ← Logged.attempt (discriminator nameOf schema)
  if disc.isSome then noteImplicit schema (.text model.key)
  let subs ← Logged.attempt (subTypes nameOf oneOf disc)
  pure
    { model with
      shape := .union
      isEnum := false
      properties := []
      parent := none
      discriminator := disc.map Discriminator.propertyName
      subTypes := subs }

/-- Properties in their places, with those of the schema itself put over them. -/
def override (properties : Table Property) (own : List Property) : Table Property :=
  own.foldl (fun acc p => acc.put p.name p) properties

section

variable (schemas : Table Value) (nameOf : String → String)

def finishedClass (model : Model) (schema : Value) (shape : Shape) (chain : List String)
    (ensure : Ensure schemas chain) : Build Model := do
  let f ←
    if shape == .composed then
      flatten schemas nameOf model.key chain ensure (schema.field "allOf")
    else pure Flattening.empty
  let own ← Build.logged (ownProperties nameOf schema model.key)
  pure
    { model with
      shape := shape
      isEnum := false
      properties := (override f.properties own).values
      parent := f.parent }

def finishedModel (model : Model) (schema : Value) (chain : List String)
    (ensure : Ensure schemas chain) : Build Model :=
  match classify schema with
  | .enumeration => Build.attempt (finishedEnumeration model schema)
  | .union => Build.logged (finishedUnion nameOf model schema)
  | shape => finishedClass schemas nameOf model schema shape chain ensure

/-- Populates the model of a key, unless that is done already. `visited` holds the
keys on the chain that led here. The keys outside the chain become fewer with
every composition, so that the search comes to an end. -/
def populate (key : String) (visited : List String) : Build Unit := do
  if ← Build.isFinished key then return
  match ← Build.record? key with
  | none => return
  | some model =>
    let schema := schemaMap ((schemas.get? key).getD .null)
    let built ← finishedModel schemas nameOf model schema (key :: visited)
      fun target _registered _outside => populate target (key :: visited)
    Build.finish key built
    Build.logged (Logged.remark .population .debug (populatedMessage built))
termination_by (schemas.names.filter fun k => k ∉ key :: visited).length
decreasing_by exact outside_lt _registered _outside

def populateEach (keys : List String) : Build Unit :=
  keys.forM fun key => populate schemas nameOf key []

end

def populated (reg : Registry) : Logged Registry :=
  ExceptT.mk fun journal =>
    let (result, w) :=
      (populateEach reg.schemas reg.nameOf reg.keys).run ⟨reg.records, [], journal⟩
    (result.map fun _ => { reg with records := w.records }, w.journal)

end SdkBlueprint.Population
