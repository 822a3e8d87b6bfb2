import SdkBlueprint.Proofs.Population.Composed

/-! Required properties of composed models. What an inline member requires holds of every
property that the composition supplies; a property that the schema declares itself answers
to the schema alone. -/
namespace SdkBlueprint.Population
open SdkBlueprint.Document SdkBlueprint.Schema

/-- The schema declares a property of the name itself. -/
def DeclaresOwn (schema : Value) (name : String) : Prop :=
  ∃ e ∈ entriesOf (schema.field "properties"), e.1 = .text name

/-- What a composition demands of the properties of its model. -/
structure Demands (schema : Value) (model : Model) : Prop where
  supplied : ∀ p ∈ model.properties, ¬ DeclaresOwn schema p.name →
    demandedBy (composedMembers schema) p.name = true →
    p.isOptional = false ∧ ∃ v ∈ p.validators, v.kind = .notEmpty
  own : ∀ p ∈ model.properties, DeclaresOwn schema p.name →
    (p.isOptional = false ↔ Requires schema p.name)

theorem occurrences_getLast? {name : String} {ps : List Property}
    (h : name ∈ ps.map Property.name) :
    ∃ p ∈ ps, p.name = name ∧ (occurrences name ps).getLast? = some p := by
  obtain ⟨q, hq, same⟩ := List.mem_map.mp h
  have listed : q ∈ occurrences name ps := List.mem_filter.mpr ⟨hq, beq_iff_eq.mpr same⟩
  have some := List.getLast?_eq_some_getLast (List.ne_nil_of_mem listed)
  obtain ⟨hp, named⟩ := List.mem_filter.mp (List.mem_of_getLast? some)
  exact ⟨_, hp, beq_iff_eq.mp named, some⟩

section Declared

variable {nameOf : String → String} {schema : Value} {ps : List Property}

theorem DeclaresAll.names (h : DeclaresAll nameOf schema ps) (name : String) :
    name ∈ ps.map Property.name ↔ DeclaresOwn schema name := by
  have agree : List.Forall₂ (fun e (n : String) => e.1 = .text n)
      (entriesOf (schema.field "properties")) (ps.map Property.name) := by
    refine List.forall₂_map_right_iff.mpr (h.imp ?_)
    rintro e p ⟨_, key, declares⟩
    exact declares.name ▸ key
  constructor
  · exact forall₂_exists_left agree name
  · rintro ⟨e, he, key⟩
    obtain ⟨n, hn, same⟩ := forall₂_exists_left agree.flip e he
    exact Scalar.text.inj (key.symm.trans same) ▸ hn

theorem DeclaresAll.optional (h : DeclaresAll nameOf schema ps) {p : Property} (hp : p ∈ ps) :
    p.isOptional = false ↔ Requires schema p.name := by
  obtain ⟨_, _, name, _, declares⟩ := forall₂_exists_left h p hp
  rw [declares.optional, declares.name, Bool.not_eq_false']
  exact Iff.rfl

end Declared

section Model

variable {nameOf : String → String} {records : Table Model} {schema : Value} {model : Model}
variable {contributions : List (List Property)} {own : List Property}

theorem Flattened.property? {members : List Value} {contributed : List Property}
    (h : Flattened members contributed own model) {p : Property} (hp : p ∈ model.properties) :
    model.property? p.name = some p := by
  rw [Model.property?, List.find?_eq_some_iff_append]
  refine ⟨beq_iff_eq.mpr rfl, ?_⟩
  obtain ⟨before, after, split⟩ := List.append_of_mem hp
  refine ⟨before, after, split, fun q hq => ?_⟩
  have distinct := h.distinct
  rw [split, List.map_append, List.nodup_append] at distinct
  have apart : q.name ≠ p.name :=
    distinct.2.2 q.name (List.mem_map_of_mem hq) p.name (List.mem_map_of_mem (by simp))
  simpa using apart

theorem Flattened.demands (h : Flattened (composedMembers schema) contributions.flatten own model)
    (declares : DeclaresAll nameOf schema own) : Demands schema model := by
  constructor
  · intro p hp absent asked
    rw [← declares.names] at absent
    have listed : p.name ∈ ((contributions.flatten ++ own).map Property.name).eraseDups :=
      h.names ▸ List.mem_map_of_mem hp
    rw [List.mem_eraseDups, List.map_append, List.mem_append] at listed
    obtain ⟨last, _, _, hlast⟩ := occurrences_getLast? (listed.resolve_right absent)
    obtain ⟨q, found, joined⟩ := h.contributed last p.name absent hlast
    rw [asked] at joined
    rw [Option.some.inj ((h.property? hp).symm.trans found)]
    exact ⟨joined.needed rfl, joined.notEmpty⟩
  · intro p hp declared
    rw [← declares.names] at declared
    obtain ⟨last, hlast, named, found⟩ := occurrences_getLast? declared
    have made := h.declared last p.name found
    rw [h.property? hp] at made
    cases Option.some.inj made
    exact declares.optional hlast

end Model

/-- Over well-typed schemas without cycles, every composed model has the properties that its
inline members require: none of them is optional unless the schema declares it anew. -/
theorem required_of_composed {schemas : Table Value} (typed : TypedSchemas schemas)
    (acyclic : ¬ Cyclic schemas) :
    ∃ reg, Registry.discover (Registry.mappingOf schemas) = .ok reg ∧
      ∀ registry, Handed reg registry → ∀ j : Journal, ∃ final k,
        (populated registry).run j = (.ok final, k) ∧
        ∀ key ∈ schemas.names, classify (schemaAt schemas key) = .composed →
          ∃ model, final.get? key = some model ∧ Demands (schemaAt schemas key) model := by
  refine ⟨_, Registry.discover_ok typed, fun registry handed j => ?_⟩
  obtain ⟨same, initial⟩ := handed.initial
  subst same
  obtain ⟨ps, w, run, history⟩ := populateEach_acyclic registry.nameOf initial handed.blank typed
    acyclic j
  refine ⟨_, _, run_populated run, fun key registered composed => ?_⟩
  obtain ⟨model, contributions, own, stored, parts, flattened⟩ :=
    history.flattened initial handed.blank typed registered composed
  exact ⟨model, stored, flattened.demands parts.own⟩

theorem required_petSchemas :
    (TypedSchemas petSchemas ∧ ¬ Cyclic petSchemas) ∧ ∃ reg final k model,
      Registry.discover (Registry.mappingOf petSchemas) = .ok reg ∧
      (populated reg).run [] = (.ok final, k) ∧ final.get? "Cat" = some model ∧
      ∀ p ∈ model.properties, p.name = "name" → p.isOptional = false := by
  refine ⟨⟨typed_petSchemas, acyclic_petSchemas⟩, ?_⟩
  obtain ⟨reg, discovered, outcome⟩ := required_of_composed typed_petSchemas acyclic_petSchemas
  obtain ⟨final, k, run, composed⟩ := outcome reg (.inl rfl) []
  obtain ⟨model, stored, demands⟩ := composed "Cat" (by decide) rfl
  refine ⟨reg, final, k, model, discovered, run, stored, fun p hp named => ?_⟩
  have absent : ¬ DeclaresOwn (schemaAt petSchemas "Cat") p.name := by
    rintro ⟨_, he, _⟩
    cases he
  exact (demands.supplied p hp absent (named ▸ by decide)).1

/-- A composition that requires what a member supplies, with a member that requires what the
composition declares. -/
def crossedSchemas : Table Value :=
  ⟨[("Cat", .map [
      (.text "required", .list [.text "name"]),
      (.text "allOf", .list [
        .map [(.text "properties", .map [
          (.text "name", .map [(.text "type", .text "string")])])],
        .map [(.text "required", .list [.text "alias"])]]),
      (.text "properties", .map [
        (.text "alias", .map [(.text "type", .text "string")])])])], by decide⟩

theorem typed_textProperty : TypedProperty (.map [(.text "type", .text "string")]) := by
  refine ⟨.of_absent ?_ rfl rfl rfl rfl, .of_absent rfl rfl, ?_, rfl⟩
  · exact ⟨typedReference_of_absent rfl, rfl, rfl, rfl, rfl, rfl⟩
  · exact ⟨rfl, rfl, rfl, rfl, rfl, rfl⟩

theorem typed_textProperties {schema : Value} {name : String}
    (properties : schema.field "properties" =
      .map [(.text name, .map [(.text "type", .text "string")])])
    (required : isTextList (schema.field "required")) : TypedClass schema := by
  constructor
  · rw [properties]; rfl
  · intro e he
    rw [properties] at he
    exact ⟨name, by rw [List.mem_singleton.mp he]⟩
  · intro e he
    rw [properties] at he
    rw [List.mem_singleton.mp he]
    exact typed_textProperty
  · exact required

theorem typed_crossedSchemas : TypedSchemas crossedSchemas := by
  intro e he
  simp only [crossedSchemas, List.mem_singleton] at he
  subst he
  refine ⟨rfl, rfl, .of_absent rfl rfl, typed_textProperties rfl rfl, rfl, fun m hm => ?_⟩
  change m ∈ [_, _] at hm
  simp only [List.mem_cons, List.not_mem_nil, or_false] at hm
  rcases hm with rfl | rfl
  · exact ⟨typedReference_of_absent rfl, fun _ => typed_textProperties rfl rfl⟩
  · exact ⟨typedReference_of_absent rfl, fun _ => .of_absent rfl rfl⟩

theorem acyclic_crossedSchemas : ¬ Cyclic crossedSchemas := by
  rintro ⟨key, cycle⟩
  obtain ⟨_, ⟨_, refers⟩, _⟩ := Relation.TransGen.head'_iff.mp cycle
  have registered : key ∈ ["Cat"] := refers.registered
  obtain rfl := List.mem_singleton.mp registered
  obtain ⟨m, hm, ref, href, _⟩ := refers
  change m ∈ [_, _] at hm
  simp only [List.mem_cons, List.not_mem_nil, or_false] at hm
  rcases hm with rfl | rfl <;> cases href

/-- Both properties stay optional: what the composition requires reaches only the properties it
declares, and what the member requires does not reach those. -/
theorem required_crossedSchemas :
    (TypedSchemas crossedSchemas ∧ ¬ Cyclic crossedSchemas) ∧ ∃ reg final k model,
      Registry.discover (Registry.mappingOf crossedSchemas) = .ok reg ∧
      (populated reg).run [] = (.ok final, k) ∧ final.get? "Cat" = some model ∧
      model.properties.map (fun p => (p.name, p.isOptional)) = [("name", true), ("alias", true)] ∧
      Requires (schemaAt crossedSchemas "Cat") "name" ∧
      demandedBy (composedMembers (schemaAt crossedSchemas "Cat")) "alias" = true ∧
      ¬ ∀ p ∈ model.properties, (Requires (schemaAt crossedSchemas "Cat") p.name ∨
        demandedBy (composedMembers (schemaAt crossedSchemas "Cat")) p.name = true) →
        p.isOptional = false := by
  refine ⟨⟨typed_crossedSchemas, acyclic_crossedSchemas⟩,
    ⟨crossedSchemas, crossedSchemas.map Registry.skeletonOf⟩, ?_⟩
  have found := Registry.discover_ok typed_crossedSchemas
  have built : ((populated ⟨crossedSchemas, crossedSchemas.map Registry.skeletonOf⟩).run []).1.map
      (fun final => (final.get? "Cat").map fun m =>
        m.properties.map fun p => (p.name, p.isOptional)) =
      .ok (some [("name", true), ("alias", true)]) := by decide +kernel
  have own : Requires (schemaAt crossedSchemas "Cat") "name" := rfl
  rcases run : (populated ⟨crossedSchemas, crossedSchemas.map Registry.skeletonOf⟩).run []
    with ⟨_ | final, k⟩ <;> rw [run] at built
  · cases built
  · obtain ⟨model, stored, properties⟩ := Option.map_eq_some_iff.mp (Except.ok.inj built)
    refine ⟨final, k, model, found, rfl, stored, properties, own, rfl, fun all => ?_⟩
    have optional : ("name", true) ∈ model.properties.map fun p => (p.name, p.isOptional) := by
      rw [properties]
      exact List.mem_cons_self
    obtain ⟨p, hp, same⟩ := List.mem_map.mp optional
    obtain ⟨named, optional⟩ := Prod.mk.inj same
    rw [all p hp (.inl (named ▸ own))] at optional
    cases optional

end SdkBlueprint.Population
