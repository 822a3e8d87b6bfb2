import SdkBlueprint.Population.Property
import SdkBlueprint.Population.Workshop

/-! Flattening of `allOf`. The first member, if it is a reference, names the
parent, whose properties are inherited and not copied. A later reference is a
mixin, whose own properties are copied. Inline members add the properties that
they declare. The last declaration of a property counts, but validators add up;
a property that an inline member requires is not optional. -/
namespace SdkBlueprint.Population
open SdkBlueprint.Document SdkBlueprint.Schema

structure Flattening where
  properties : Table Property
  required : List Scalar
  parent : Option String
  mixins : List String

def missingMessage (target current : String) : String :=
  s!"Referenced model '{target}' not found while composing '{current}'."

def collisionMessage (name current source : String) : String :=
  s!"Property collision: '{name}' in '{current}' is being overwritten by '{source}'."

/-- The property with the validators of an earlier one of its name. -/
def inherit? (earlier : Option Property) (p : Property) : Attempt Property :=
  (Validator.merge? [(earlier.map Property.validators).getD [], p.validators]).map fun vs =>
    { p with validators := vs }

def overlay? (properties : Table Property) (p : Property) : Attempt (Table Property) :=
  (inherit? (properties.get? p.name) p).map fun q => properties.put p.name q

/-- A property that every value has: it is not optional and not empty. -/
def demanded (p : Property) : Property :=
  { p with
    isOptional := false
    validators :=
      if p.validators.any fun v => v.kind == .notEmpty then p.validators
      else p.validators ++ [⟨.notEmpty, none⟩] }

namespace Flattening

def empty : Flattening := ⟨Table.empty, [], none, []⟩

/-- Adds the properties of one source and notes which names it takes over. -/
def addProperties (current source : String) (f : Flattening) (ps : List Property) :
    Logged Flattening := do
  let properties ← ps.foldlM
    (fun acc p => do
      if acc.contains p.name then
        Logged.warn .composition .propertyCollision (collisionMessage p.name current source) current
      Logged.attempt (overlay? acc p))
    f.properties
  return { f with properties := properties }

def require (f : Flattening) (names : List Value) : Attempt Flattening := do
  let scalars ← names.mapM fun v =>
    match v with
    | .scalar s => .ok s
    | _ => misuse .wrongKind
  return { f with required := scalars.foldl (fun acc s => Value.addMember s acc) f.required }

def withRequired (f : Flattening) : Flattening :=
  { f with
    properties := f.properties.map fun name p =>
      if f.required.any (Scalar.same (.text name)) then demanded p else p }

def addInline (nameOf : String → String) (current : String) (f : Flattening) (member : Value) :
    Logged Flattening := do
  let ps ← ownProperties nameOf member current
  let f ← f.addProperties current "inline schema" ps
  Logged.attempt (f.require (requiredNames member))

end Flattening

/-- Makes sure that a target is populated, for a target that is a schema key and
not on the chain. -/
abbrev Ensure (schemas : Table Value) (chain : List String) :=
  (target : String) → target ∈ schemas.names → target ∉ chain → Build Unit

section

variable (schemas : Table Value) (nameOf : String → String)

/-- Takes up a reference. One back into the chain is an error, one to no schema a
finding. -/
def addReference (current : String) (chain : List String) (ensure : Ensure schemas chain)
    (isFirst : Bool) (f : Flattening) (ref : Value) : Build Flattening := do
  let target ← Build.attempt (targetKey ref)
  if onChain : target ∈ chain then throw (.circular current target)
  else if registered : target ∈ schemas.names then
    ensure target registered onChain
    match ← Build.record? target with
    | none => return f
    | some model =>
      if isFirst then return { f with parent := some model.name }
      else
        Build.logged <| Flattening.addProperties current model.name
          { f with mixins := f.mixins ++ [model.name] } model.properties
  else
    Build.logged <|
      Logged.warn .composition .missingReference (missingMessage target current) current
    return f

def addMember (current : String) (chain : List String) (ensure : Ensure schemas chain)
    (isFirst : Bool) (f : Flattening) (member : Value) : Build Flattening :=
  match ref? member with
  | some ref => addReference schemas current chain ensure isFirst f ref
  | none =>
    if member.isMap then Build.logged (f.addInline nameOf current member) else pure f

def addMembers (current : String) (chain : List String) (ensure : Ensure schemas chain)
    (isFirst : Bool) (f : Flattening) : List Value → Build Flattening
  | [] => pure f
  | member :: rest => do
    let f ← addMember schemas nameOf current chain ensure isFirst f member
    addMembers current chain ensure false f rest

/-- Flattens the members that the schema of `current` composes. -/
def flatten (current : String) (chain : List String) (ensure : Ensure schemas chain)
    (allOf : Value) : Build Flattening := do
  let members ← Build.attempt (iterate allOf)
  let f ← addMembers schemas nameOf current chain ensure true Flattening.empty members
  return f.withRequired

end

end SdkBlueprint.Population
