import SdkBlueprint.Proofs.Population.References
import SdkBlueprint.Proofs.Schema.Mentions

/-! Names in finished models. Every one of them is built in or the name of a key that the
schema of the model mentions, and what a model extends is registered. -/
namespace SdkBlueprint.Population
open SdkBlueprint.Document SdkBlueprint.Schema

variable {schemas : Table Value} {nameOf : String → String}

theorem mem_values_ofEntries {es : List (String × String)} {v : String}
    (h : v ∈ (Table.ofEntries es).values) : v ∈ es.map Prod.snd := by
  refine Table.forall_values_foldl_put Prod.fst (fun _ e => e.2)
    (fun _ e he _ => List.mem_map_of_mem he) (t := Table.empty) ?_ v h
  intro w hw
  cases hw

/-- Whatever a discriminator maps to is the name of a target of its schema. -/
theorem discriminator_targets {schema : Value} {d : Discriminator}
    (h : discriminator nameOf schema = .ok (some d)) :
    ∀ name ∈ d.mapping.values, ∃ key, Targets schema key ∧ name = nameOf key := by
  obtain ⟨made, _⟩ := discriminator_eq_some h
  intro name hn
  unfold declaredMapping at made
  split at made
  · obtain ⟨entries, declared, made⟩ := attempt_bind_ok made
    rw [← Except.ok.inj made] at hn
    have listed := mem_values_ofEntries hn
    rw [List.map_map] at listed
    obtain ⟨e, he, rfl⟩ := List.mem_map.mp listed
    exact ⟨_, .mapped declared he, rfl⟩
  · obtain ⟨names, hnames, made⟩ := attempt_bind_ok made
    rw [← Except.ok.inj made] at hn
    have listed := mem_values_ofEntries hn
    rw [List.map_map] at listed
    obtain ⟨other, member, rfl⟩ := List.mem_map.mp listed
    unfold orEmptyList at hnames
    split at hnames
    · exact refNames_targets hnames other member
    · cases hnames
      cases member

theorem subTypes_targets {schema : Value} {d : Option Discriminator} {subs : List SubType}
    (found : discriminator nameOf schema = .ok d)
    (h : subTypes nameOf (schema.field "oneOf") d = .ok subs) :
    ∀ s ∈ subs, ∃ key, Targets schema key ∧ s.name = nameOf key := by
  intro s hs
  cases d with
  | none =>
      obtain ⟨names, hnames, rfl⟩ := attempt_map_ok h
      obtain ⟨name, hname, rfl⟩ := List.mem_map.mp hs
      exact refNames_targets hnames name hname
  | some d =>
      cases h
      obtain ⟨e, he, rfl⟩ := List.mem_map.mp hs
      exact discriminator_targets found e.2 (List.mem_map_of_mem he)

/-- The names in a finished model are built in or stand for keys that its schema mentions. -/
structure Mentioning (schemas : Table Value) (nameOf : String → String) (key : String)
    (m : Model) : Prop where
  properties : ∀ p ∈ m.properties, ∃ node, Supplies schemas key p.name node ∧
    (∀ name ∈ p.type.names, NameIn nameOf node name) ∧
    ∀ d, p.discriminator = some d →
      ∀ name ∈ d.mapping.values, ∃ target, Targets node target ∧ name = nameOf target
  parent : ∀ name, m.parent = some name → ∃ target ∈ schemas.names, name = nameOf target
  subTypes : ∀ s ∈ m.subTypes, ∃ target, Targets (schemaAt schemas key) target ∧
    s.name = nameOf target

theorem parentKey?_registered {key parent : String} (h : parentKey? schemas key = some parent) :
    parent ∈ schemas.names := by
  obtain ⟨m, hm, points⟩ := Option.bind_eq_some_iff.mp h
  exact (composes_of_points (List.mem_of_head? hm) points).1

theorem Rendered.mentioning {key : String} {m : Model} (h : Rendered schemas nameOf key m) :
    Mentioning schemas nameOf key m := by
  constructor
  · intro p hp
    obtain ⟨node, supplies, renders⟩ := h.properties p hp
    refine ⟨node, supplies, resolve_names renders.type, fun d hd => ?_⟩
    have facet := renders.discriminator
    rw [hd, facetOf] at facet
    split at facet
    · intro name hn
      obtain ⟨target, targets, same⟩ := discriminator_targets facet name hn
      exact ⟨target, targets.of_schemaMap, same⟩
    · cases facet
  · intro name hname
    rw [h.parent] at hname
    obtain ⟨target, ht, rfl⟩ := Option.map_eq_some_iff.mp hname
    exact ⟨target, parentKey?_registered ht, rfl⟩
  · intro s hs
    by_cases union : classify (schemaAt schemas key) = .union
    · obtain ⟨d, found, _, subs⟩ := h.union union
      exact subTypes_targets found subs s hs
    · rw [(h.other union).2] at hs
      cases hs

end SdkBlueprint.Population
