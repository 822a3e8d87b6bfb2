import SdkBlueprint.Proofs.Converted
import SdkBlueprint.Proofs.Population.Mentions

/-! Blueprints are closed. A name in a blueprint is built in, or it is that of a model in the
blueprint; the only other names are keys that the document mentions and no schema has. -/
namespace SdkBlueprint
open SdkBlueprint.Document SdkBlueprint.Schema SdkBlueprint.Population TypeExpr

/-- The name is that of a model, or one of the given keys, for which there is no model. -/
def Blueprint.Stands (b : Blueprint) (key : String → Prop) (name : String) : Prop :=
  (∃ m ∈ b.models, m.name = name) ∨ key name ∧ ∀ m ∈ b.models, m.key ≠ name

/-- A name in a type that a node gives: a built-in one, or it stands for what the node mentions. -/
def Blueprint.Knows (b : Blueprint) (node : Value) (name : String) : Prop :=
  name ∈ builtinNames ∨ b.Stands (Mentions node) name

/-- Every name in the model is known. What it extends is a model of the blueprint. -/
structure ClosedModel (b : Blueprint) (schemas : Table Value) (m : Model) : Prop where
  properties : ∀ p ∈ m.properties, ∃ node, Supplies schemas m.key p.name node ∧
    (∀ name ∈ p.type.names, b.Knows node name) ∧
    ∀ d, p.discriminator = some d → ∀ name ∈ d.mapping.values, b.Stands (Targets node) name
  parent : ∀ name, m.parent = some name → ∃ other ∈ b.models, other.name = name
  subTypes : ∀ s ∈ m.subTypes, b.Stands (Targets (schemaAt schemas m.key)) s.name

/-- Every name in the types of the operation is known. -/
structure ClosedOperation (b : Blueprint) (components : Services.Components)
    (e : Services.Endpoint) (o : Operation) : Prop where
  parameters : ∀ p ∈ o.parameters, ∃ node, Services.ParameterSchema components e p node ∧
    ∀ name ∈ p.type.names, b.Knows node name
  returns : o.returnType = .void ∨ ∃ node, Services.ReturnSchema components e node ∧
    ∀ name ∈ o.returnType.names, b.Knows node name

section Names

variable {b : Blueprint}

theorem Blueprint.nameOf_cases (b : Blueprint) (key : String) :
    (∃ m ∈ b.models, m.key = key ∧ m.name = b.nameOf key) ∨
      b.nameOf key = key ∧ ∀ m ∈ b.models, m.key ≠ key := by
  unfold Blueprint.nameOf
  cases found : b.models.find? fun m => m.key == key with
  | none => exact .inr ⟨rfl, by simpa using found⟩
  | some m =>
      exact .inl ⟨m, List.mem_of_find?_eq_some found, by simpa using List.find?_some found, rfl⟩

theorem Blueprint.stands_nameOf {mentioned : String → Prop} {key : String} (h : mentioned key) :
    b.Stands mentioned (b.nameOf key) := by
  rcases b.nameOf_cases key with ⟨m, hm, _, named⟩ | ⟨same, unknown⟩
  · exact .inl ⟨m, hm, named⟩
  · rw [same]
    exact .inr ⟨h, unknown⟩

theorem Blueprint.knows_of_nameIn {node : Value} {name : String}
    (h : NameIn b.nameOf node name) : b.Knows node name := by
  rcases h with builtin | ⟨key, mentions, rfl⟩
  · exact .inl builtin
  · exact .inr (b.stands_nameOf mentions)

end Names

section Closed

variable {settings : Settings} {document : Value} {b : Blueprint} {reg : Registry}

theorem Converted.closedModel (h : Converted settings document b reg) {m : Model}
    (hm : m ∈ b.models) : ClosedModel b reg.schemas m := by
  have mentioning := (h.rendered m hm).mentioning
  constructor
  · intro p hp
    obtain ⟨node, supplies, types, mapped⟩ := mentioning.properties p hp
    refine ⟨node, supplies, fun name hn => Blueprint.knows_of_nameIn (types name hn), ?_⟩
    intro d hd name hn
    obtain ⟨target, targets, rfl⟩ := mapped d hd name hn
    exact b.stands_nameOf targets
  · intro name hn
    obtain ⟨target, known, rfl⟩ := mentioning.parent name hn
    obtain ⟨other, member, key⟩ := h.registered known
    exact ⟨other, member, by rw [← h.named other member, key]⟩
  · intro s hs
    obtain ⟨target, targets, same⟩ := mentioning.subTypes s hs
    rw [same]
    exact b.stands_nameOf targets

theorem closedOperation {components : Services.Components} {e : Services.Endpoint} {o : Operation}
    (h : Services.Refers b.nameOf components e o) : ClosedOperation b components e o := by
  constructor
  · intro p hp
    obtain ⟨node, declared, type⟩ := h.parameters p hp
    exact ⟨node, declared, fun name hn => Blueprint.knows_of_nameIn (resolve_names type name hn)⟩
  · refine h.returns.imp_right ?_
    rintro ⟨node, declared, type⟩
    exact ⟨node, declared, fun name hn => Blueprint.knows_of_nameIn (resolve_names type name hn)⟩

end Closed

/-- Every name in a blueprint is known: in the types of properties, parameters, bodies and
results, in what models extend, and in the sub-types and mappings of unions. -/
theorem blueprint_closed {settings : Settings} {document : Value} {b : Blueprint} {j k : Journal}
    (run : (convert settings document).run j = (.ok b, k)) :
    ∃ reg components paths, discovered document = .ok reg ∧
      (∀ m ∈ b.models, ClosedModel b reg.schemas m) ∧
      Services.Components.ofDocument document = .ok components ∧
      fieldsOf (orEmptyMap (document.field "paths")) = .ok paths ∧
      ∀ s ∈ b.services, ∀ o ∈ s.operations.values,
        ∃ e ∈ paths.flatMap fun p => Services.Endpoint.ofItem p.1.display p.2,
          ClosedOperation b components e o := by
  obtain ⟨reg, converted⟩ := convert_converted run
  obtain ⟨i, l, served⟩ := converted.services
  obtain ⟨components, paths, hcomponents, hpaths, refer⟩ := Services.services_refer served
  refine ⟨reg, components, paths, converted.found, fun m hm => converted.closedModel hm,
    hcomponents, hpaths, fun s hs o ho => ?_⟩
  obtain ⟨e, he, refers⟩ := refer s hs o ho
  exact ⟨e, he, closedOperation refers⟩

/-- An owner of a pet, of which there is no schema. -/
def danglingSchemas : Table Value :=
  ⟨[("Owner", .map [(.text "properties", .map [
    (.text "pet", referenceTo "#/components/schemas/Pet")])])], by decide⟩

/-- The names in the types of all properties. -/
def propertyNames (b : Blueprint) : List String :=
  b.models.flatMap fun m => m.properties.flatMap fun p => p.type.names

theorem convert_danglingSchemas :
    ∃ b k, (convert .defaults (documentOf danglingSchemas)).run [] = (.ok b, k) ∧
      k.findings = [] ∧ b.models.map Model.name = ["Owner"] ∧ propertyNames b = ["Pet"] := by
  have evaluated : ((convert .defaults (documentOf danglingSchemas)).run []).1.map
        (fun b => (b.models.map Model.name, propertyNames b)) = .ok (["Owner"], ["Pet"]) ∧
      ((convert .defaults (documentOf danglingSchemas)).run []).2.findings = [] := by
    decide +kernel
  obtain ⟨converted, silent⟩ := evaluated
  obtain ⟨b, made, same⟩ := attempt_map_ok converted
  obtain ⟨models, names⟩ := Prod.mk.inj same
  exact ⟨b, _, Prod.ext made rfl, silent, models, names⟩

theorem closed_danglingSchemas :
    ∃ b k, (convert .defaults (documentOf danglingSchemas)).run [] = (.ok b, k) ∧
      propertyNames b = ["Pet"] ∧ ∃ reg, discovered (documentOf danglingSchemas) = .ok reg ∧
      ∀ m ∈ b.models, ClosedModel b reg.schemas m := by
  obtain ⟨b, k, run, _, _, names⟩ := convert_danglingSchemas
  obtain ⟨reg, _, _, found, closed, _⟩ := blueprint_closed run
  exact ⟨b, k, run, names, reg, found, closed⟩

/-- No finding tells of the missing schema, whose key is taken for a name. -/
theorem dangling_unreported :
    ∃ b k, (convert .defaults (documentOf danglingSchemas)).run [] = (.ok b, k) ∧
      k.findings = [] ∧
      ¬ ∀ m ∈ b.models, ∀ p ∈ m.properties, ∀ name ∈ p.type.names,
        name ∈ builtinNames ∨ ∃ other ∈ b.models, other.name = name := by
  obtain ⟨b, k, run, silent, models, names⟩ := convert_danglingSchemas
  refine ⟨b, k, run, silent, fun closed => ?_⟩
  have pet : "Pet" ∈ propertyNames b := by
    rw [names]
    exact List.mem_singleton.mpr rfl
  obtain ⟨m, hm, pet⟩ := List.mem_flatMap.mp pet
  obtain ⟨p, hp, pet⟩ := List.mem_flatMap.mp pet
  rcases closed m hm p hp "Pet" pet with builtin | ⟨other, member, named⟩
  · revert builtin
    decide
  · have listed := List.mem_map_of_mem (f := Model.name) member
    rw [models, named] at listed
    revert listed
    decide

end SdkBlueprint
