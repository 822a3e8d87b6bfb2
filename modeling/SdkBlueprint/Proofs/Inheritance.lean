import SdkBlueprint.Proofs.Identifiers
import SdkBlueprint.Proofs.Population.Mentions
import SdkBlueprint.Proofs.Population.Shapes

/-! Inheritance in a blueprint. A model extends one whose schema its own schema composes. Since a
conversion that succeeds has met no cycle of compositions, going from models to their parents
comes to an end. -/
namespace SdkBlueprint
open SdkBlueprint.Document SdkBlueprint.Schema SdkBlueprint.Population Relation

namespace Blueprint

/-- The model that another one extends, as it is found by its name. -/
def parent? (b : Blueprint) (m : Model) : Option Model := m.parent.bind b.model?

/-- The models on the way from a model, which is not among them, to one that extends none. -/
inductive Lineage (b : Blueprint) : Model → List Model → Prop
  | root {m} (orphan : m.parent = none) : Lineage b m []
  | child {m p line} (extended : b.parent? m = some p) (rest : Lineage b p line) :
      Lineage b m (p :: line)

end Blueprint

namespace Converted

variable {settings : Settings} {document : Value} {b : Blueprint} {reg : Registry}

theorem accessible (h : Converted settings document b reg) {m : Model} (member : m ∈ b.models) :
    Acc (fun t k => Composes reg.schemas k t) m.key := by
  obtain ⟨p, built, same, _⟩ := h.built m member
  exact same ▸ built.accessible

theorem shape (h : Converted settings document b reg) {m : Model} (member : m ∈ b.models) :
    m.shape = classify (schemaAt reg.schemas m.key) := by
  obtain ⟨p, built, same, rfl⟩ := h.built m member
  rw [← same]
  exact built.shape

/-- What a model extends is the name of a model whose schema its own schema composes. -/
theorem extends_composed (h : Converted settings document b reg) {m : Model}
    (member : m ∈ b.models) {name : String} (extended : m.parent = some name) :
    ∃ p ∈ b.models, p.name = name ∧ Composes reg.schemas m.key p.key := by
  rw [(h.rendered m member).parent] at extended
  obtain ⟨key, declared, named⟩ := Option.map_eq_some_iff.mp extended
  obtain ⟨p, there, same⟩ := h.registered (parentKey?_registered declared)
  have edge : Composes reg.schemas m.key key := by
    obtain ⟨node, first, points⟩ := Option.bind_eq_some_iff.mp declared
    exact composes_of_points (List.mem_of_head? first) points
  refine ⟨p, there, ?_, same ▸ edge⟩
  rw [← h.named p there, same, named]

theorem composed_of_extends (h : Converted settings document b reg) {m : Model}
    (member : m ∈ b.models) (extended : m.parent ≠ none) : m.shape = .composed := by
  rw [h.shape member]
  by_contra plain
  have orphan := (h.rendered m member).parent
  rw [parentKey?_of_plain plain] at orphan
  exact extended orphan

/-- A line of models, each of which extends the next: every one is composed from the first. -/
theorem lineage_composes (h : Converted settings document b reg)
    (distinct : (b.models.map Model.name).Nodup) {m : Model} (member : m ∈ b.models)
    {line : List Model} (lineage : b.Lineage m line) :
    ∀ p ∈ line, p ∈ b.models ∧ TransGen (Composes reg.schemas) m.key p.key := by
  induction lineage with
  | root => simp
  | @child m p line extended rest ih =>
      obtain ⟨name, hname, found⟩ := Option.bind_eq_some_iff.mp extended
      obtain ⟨q, there, named, edge⟩ := h.extends_composed member hname
      have isParent : q = p := by
        have here := Blueprint.model?_of_distinct distinct there
        rw [named, found] at here
        exact (Option.some.inj here).symm
      subst isParent
      intro r hr
      rcases List.mem_cons.mp hr with rfl | hr
      · exact ⟨there, .single edge⟩
      · obtain ⟨inside, path⟩ := ih there r hr
        exact ⟨inside, .head edge path⟩

theorem lineage_nodup (h : Converted settings document b reg)
    (distinct : (b.models.map Model.name).Nodup) {m : Model} (member : m ∈ b.models)
    {line : List Model} (lineage : b.Lineage m line) : ((m :: line).map Model.key).Nodup := by
  induction lineage with
  | root => simp
  | @child m p line extended rest ih =>
      have composed := h.lineage_composes distinct member (.child extended rest)
      have there := (composed p (by simp)).1
      rw [List.map_cons, List.nodup_cons]
      refine ⟨?_, ih there⟩
      intro again
      obtain ⟨q, hq, same⟩ := List.mem_map.mp again
      have cycle := (composed q hq).2
      rw [same] at cycle
      exact no_cycle_of_accessible (h.accessible member) cycle

/-- The induction is on what a schema composes, which no schema does for ever. -/
theorem exists_lineage (h : Converted settings document b reg)
    (distinct : (b.models.map Model.name).Nodup) {m : Model} (member : m ∈ b.models) :
    ∃ line, b.Lineage m line := by
  have descent : ∀ key, Acc (fun t k => Composes reg.schemas k t) key → ∀ m ∈ b.models,
      m.key = key → ∃ line, b.Lineage m line := by
    intro key accessible
    induction accessible with
    | intro key _ ih =>
        intro m member same
        cases extended : m.parent with
        | none => exact ⟨[], .root extended⟩
        | some name =>
            obtain ⟨p, there, named, edge⟩ := h.extends_composed member extended
            obtain ⟨line, rest⟩ := ih p.key (same ▸ edge) p there rfl
            have found : b.model? name = some p :=
              named ▸ Blueprint.model?_of_distinct distinct there
            have parent : b.parent? m = some p := by
              rw [Blueprint.parent?, extended, Option.bind_some, found]
            exact ⟨p :: line, .child parent rest⟩
  exact descent m.key (h.accessible member) m member rfl

end Converted

/-- When a conversion succeeds and its models differ in their names, inheritance is well-founded.
What a model extends is the name of a model; and going from any model to what it extends leads
through models that are all different, and so through fewer than there are, to one that extends
none. A model that extends another one is composed. -/
theorem inheritance_well_founded {settings : Settings} {document : Value} {b : Blueprint}
    {j k : Journal} (run : (convert settings document).run j = (.ok b, k))
    (distinct : (b.models.map Model.name).Nodup) :
    ∀ m ∈ b.models,
      (∀ name, m.parent = some name →
        ∃ p ∈ b.models, p.name = name ∧ b.parent? m = some p) ∧
      (m.parent ≠ none → m.shape = .composed) ∧
      (∃ line, b.Lineage m line) ∧
      ∀ line, b.Lineage m line → line ⊆ b.models ∧ ((m :: line).map Model.key).Nodup ∧
        line.length < b.models.length := by
  obtain ⟨reg, converted⟩ := convert_converted run
  intro m member
  refine ⟨?_, converted.composed_of_extends member, converted.exists_lineage distinct member, ?_⟩
  · intro name extended
    obtain ⟨p, there, named, _⟩ := converted.extends_composed member extended
    have found : b.model? p.name = some p := Blueprint.model?_of_distinct distinct there
    refine ⟨p, there, named, ?_⟩
    rw [Blueprint.parent?, extended, Option.bind_some, ← named, found]
  · intro line lineage
    have inside : line ⊆ b.models := by
      intro p hp
      exact (converted.lineage_composes distinct member lineage p hp).1
    have once := converted.lineage_nodup distinct member lineage
    have all : m :: line ⊆ b.models := List.cons_subset.mpr ⟨member, inside⟩
    have fewer := (List.subperm_of_subset (List.Nodup.of_map _ once) all).length_le
    refine ⟨inside, once, ?_⟩
    rw [List.length_cons] at fewer
    omega

/-- The one class that has a parent is composed, and its parent is found. -/
theorem inheritance_petSchemas :
    ∃ b k, (convert .defaults (documentOf petSchemas)).run [] = (.ok b, k) ∧
      (b.models.map Model.name).Nodup ∧
      ∃ cat ∈ b.models, cat.parent = some "Pet" ∧ cat.shape = .composed ∧
        (∃ pet ∈ b.models, pet.name = "Pet" ∧ b.parent? cat = some pet) ∧
        ∃ line, b.Lineage cat line ∧ line.length < 3 := by
  have evaluated : ((convert .defaults (documentOf petSchemas)).run []).1.map
      (fun b => b.models.map fun m => (m.name, m.parent)) =
        .ok [("Cat", some "Pet"), ("Pet", none), ("Named", none)] := by
    decide +kernel
  obtain ⟨b, made, outline⟩ := attempt_map_ok evaluated
  have names : b.models.map Model.name = ["Cat", "Pet", "Named"] := by
    have firsts := congrArg (List.map Prod.fst) outline
    rwa [List.map_map] at firsts
  have distinct : (b.models.map Model.name).Nodup := by
    rw [names]
    decide
  obtain ⟨cat, member, same⟩ : ∃ cat ∈ b.models, (cat.name, cat.parent) = ("Cat", some "Pet") := by
    apply List.mem_map.mp
    rw [outline]
    decide
  have extended : cat.parent = some "Pet" := (Prod.mk.inj same).2
  have run : (convert .defaults (documentOf petSchemas)).run [] = (.ok b, _) := Prod.ext made rfl
  obtain ⟨parents, composed, ⟨line, lineage⟩, lines⟩ :=
    inheritance_well_founded run distinct cat member
  have size : b.models.length = 3 := by
    rw [← List.length_map (f := Model.name), names]
    rfl
  refine ⟨b, _, run, distinct, cat, member, extended, ?_, parents "Pet" extended, line, lineage, ?_⟩
  · apply composed
    rw [extended]
    simp
  · exact size ▸ (lines line lineage).2.2

end SdkBlueprint
