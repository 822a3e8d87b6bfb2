import SdkBlueprint.Proofs.Population.Run
import SdkBlueprint.Proofs.Registry

/-! Cycles of compositions. The order in which models are stored rules cycles out, and a
failure names an edge that lies on one: population detects cycles exactly. -/
namespace SdkBlueprint.Population
open SdkBlueprint.Document SdkBlueprint.Schema Relation

section Order

variable {schemas : Table Value} {nameOf : String → String} {start : Table Model}

theorem Refers.registered {key target : String} (h : Refers schemas key target) :
    key ∈ schemas.names := by
  obtain ⟨m, hm, _⟩ := h
  by_contra unknown
  rw [← Table.get?_eq_none_iff] at unknown
  rw [schemaAt, unknown] at hm
  cases hm

theorem Orderly.accessible {done : List String} {ps : List Product}
    (h : Orderly schemas nameOf start done ps)
    (below : ∀ k ∈ done, Acc (fun t k => Composes schemas k t) k) :
    ∀ k ∈ ps.map Product.key, Acc (fun t k => Composes schemas k t) k := by
  induction h with
  | nil => simp
  | @cons done p ps registered fresh ready built rest ih =>
      -- What `p` is composed of was done before it, and nothing descends from there for ever.
      have here : Acc (fun t k => Composes schemas k t) p.key :=
        .intro p.key fun t ht => below t (ready t ht)
      intro k hk
      rcases List.mem_cons.mp hk with rfl | hk
      · exact here
      · refine ih (fun d hd => ?_) k hk
        rcases List.mem_append.mp hd with hd | hd
        · exact below d hd
        · rw [List.mem_singleton] at hd
          exact hd ▸ here

theorem no_cycle_of_accessible {key : String}
    (h : Acc (fun t k => Composes schemas k t) key) : ¬ TransGen (Composes schemas) key key := by
  induction h with
  | intro key _ ih =>
      intro cycle
      obtain ⟨t, first, rest⟩ := TransGen.head'_iff.mp cycle
      exact ih t first (TransGen.tail' rest first)

/-- A run that tells its history has met no cycle. -/
theorem History.acyclic {j : Journal} {ps : List Product} {w : Workshop}
    (h : History schemas nameOf start j ps w) : ¬ Cyclic schemas := by
  rintro ⟨key, cycle⟩
  obtain ⟨t, first, rest⟩ := TransGen.head'_iff.mp cycle
  have stored : key ∈ ps.map Product.key := h.complete.mem_iff.mpr first.2.registered
  exact no_cycle_of_accessible (h.moves.orderly.accessible (by simp) key stored) cycle

theorem populateEach_acyclic (nameOf : String → String) (initial : Initial schemas start)
    (blank : Blank schemas start) (typed : TypedSchemas schemas) (acyclic : ¬ Cyclic schemas)
    (j : Journal) :
    ∃ ps w, (populateEach schemas nameOf start.names).run ⟨start, [], j⟩ = (.ok (), w) ∧
      History schemas nameOf start j ps w := by
  have ends := populateEach_ends nameOf initial j
  unfold Build.Ends at ends
  rcases hr : (populateEach schemas nameOf start.names).run ⟨start, [], j⟩ with ⟨e | a, w⟩ <;>
    rw [hr] at ends
  · obtain ⟨s, t, _, edge, back⟩ := ends.2 typed blank
    exact absurd ⟨s, TransGen.head' edge back⟩ acyclic
  · obtain ⟨ps, history⟩ := ends.2
    exact ⟨ps, w, rfl, history⟩

end Order

theorem Initial.map {schemas : Table Value} {start : Table Model} (h : Initial schemas start)
    {f : String → Model → Model} (same : ∀ k m, (f k m).key = m.key) :
    Initial schemas (start.map f) := by
  refine ⟨by rw [Table.names_map, h.names], fun e he => ?_⟩
  obtain ⟨d, hd, rfl⟩ := List.mem_map.mp he
  exact (same d.1 d.2).trans (h.keyed d hd)

theorem initial_discovered (schemas : Table Value) :
    Initial schemas (schemas.map Registry.skeletonOf) := by
  refine ⟨Table.names_map _ _, fun e he => ?_⟩
  obtain ⟨d, _, rfl⟩ := List.mem_map.mp he
  rfl

/-- A registry that is handed to population: as it was discovered, or sanitized. -/
def Handed (reg registry : Registry) : Prop :=
  registry = reg ∨ ∃ settings : Settings, registry = reg.sanitize settings

theorem Handed.initial {schemas : Table Value} {registry : Registry}
    (h : Handed ⟨schemas, schemas.map Registry.skeletonOf⟩ registry) :
    registry.schemas = schemas ∧ Initial schemas registry.records := by
  rcases h with rfl | ⟨settings, rfl⟩
  · exact ⟨rfl, initial_discovered schemas⟩
  · have renamed := Initial.map (f := fun _ m => m.withName (settings.sanitized m.name))
      (initial_discovered schemas) fun _ _ => rfl
    exact ⟨rfl, renamed⟩

theorem Handed.blank {schemas : Table Value} {registry : Registry}
    (h : Handed ⟨schemas, schemas.map Registry.skeletonOf⟩ registry) :
    Blank schemas registry.records := by
  intro key m stored _
  rcases h with rfl | ⟨settings, rfl⟩
  · rw [Table.get?_map] at stored
    obtain ⟨v, _, rfl⟩ := Option.map_eq_some_iff.mp stored
    rfl
  · rw [Registry.sanitize, Table.get?_map, Table.get?_map] at stored
    obtain ⟨_, inner, rfl⟩ := Option.map_eq_some_iff.mp stored
    obtain ⟨v, _, rfl⟩ := Option.map_eq_some_iff.mp inner
    rfl

theorem run_populated {reg : Registry} {j : Journal} {result : Attempt Unit} {w : Workshop}
    (h : (populateEach reg.schemas reg.nameOf reg.keys).run ⟨reg.records, [], j⟩ = (result, w)) :
    (populated reg).run j =
      (result.map fun _ => { reg with records := w.records }, w.journal) := by
  simp only [populated, ExceptT.run_mk, h]

/-- Over well-typed schemas population fails if and only if some schema composes itself, and
it then reports an edge on a cycle. Otherwise it stores every model once, after the models
that it is composed of. -/
theorem cycle_detection_exact {schemas : Table Value} (typed : TypedSchemas schemas) :
    ∃ reg, Registry.discover (Registry.mappingOf schemas) = .ok reg ∧
      ∀ registry, Handed reg registry → ∀ j : Journal, ∃ result w,
        (populateEach registry.schemas registry.nameOf registry.keys).run
          ⟨registry.records, [], j⟩ = (result, w) ∧
        (populated registry).run j =
          (result.map fun _ => { registry with records := w.records }, w.journal) ∧
        ((∃ s t, result = .error (.circular s t)) ↔ Cyclic schemas) ∧
        (∀ e, result = .error e → ∃ s t, e = .circular s t ∧ Composes schemas s t ∧
          ReflTransGen (Composes schemas) t s) ∧
        (result = .ok () → ∃ ps : List Product,
          w.finished = ps.map Product.key ∧ (ps.map Product.key).Perm schemas.names ∧
          w.records = store registry.records ps ∧
          (∀ p ∈ ps, Built schemas registry.nameOf registry.records p) ∧
          ∀ before p after, ps = before ++ p :: after →
            ∀ t, Composes schemas p.key t → t ∈ before.map Product.key) := by
  refine ⟨_, Registry.discover_ok typed, fun registry handed j => ?_⟩
  obtain ⟨same, initial⟩ := handed.initial
  subst same
  have ends := populateEach_ends registry.nameOf initial j
  unfold Build.Ends at ends
  rcases hr : (populateEach registry.schemas registry.nameOf registry.records.names).run
    ⟨registry.records, [], j⟩ with ⟨result, w⟩
  rw [hr] at ends
  refine ⟨result, w, hr, run_populated hr, ?_⟩
  cases result with
  | error e =>
      obtain ⟨s, t, rfl, edge, back⟩ := ends.2 typed handed.blank
      refine ⟨⟨fun _ => ⟨s, TransGen.head' edge back⟩, fun _ => ⟨s, t, rfl⟩⟩, ?_, ?_⟩
      · intro e he
        cases he
        exact ⟨s, t, rfl, edge, back⟩
      · intro done
        cases done
  | ok a =>
      obtain ⟨ps, history⟩ := ends.2
      refine ⟨⟨?_, fun cyclic => absurd cyclic history.acyclic⟩, ?_, fun _ =>
        ⟨ps, history.moves.finished, history.complete, history.moves.records,
          history.moves.orderly.built, ?_⟩⟩
      · rintro ⟨s, t, failed⟩
        cases failed
      · intro e failed
        cases failed
      · intro before p after split t ht
        simpa using history.moves.orderly.ready_before split t ht

/-- A reference to the part at a pointer. -/
def referenceTo (pointer : String) : Value := .map [(.text "$ref", .text pointer)]

theorem typed_referenceTo (pointer : String) : TypedReference (referenceTo pointer) := by
  intro ref hr
  cases hr
  rfl

/-- A schema that composes the parts at the given pointers. -/
def composing (pointers : List String) : Value :=
  .map [(.text "allOf", .list (pointers.map referenceTo))]

theorem typed_composing (pointers : List String) : TypedComponent (composing pointers) := by
  have absent : ∀ name, name ≠ "allOf" → (composing pointers).field name = .null := by
    intro name h
    simp [composing, Value.field, Value.field?, Value.member?, Ne.symm h]
  constructor
  case description =>
    rw [absent _ (by decide)]
    rfl
  case enum =>
    rw [absent _ (by decide)]
    rfl
  case union => exact .of_absent (absent _ (by decide)) (absent _ (by decide))
  case ownFields =>
    refine .of_absent (absent _ (by decide)) ?_
    rw [absent _ (by decide)]
    rfl
  case allOf => rfl
  case members =>
    intro m hm
    obtain ⟨p, _, rfl⟩ := List.mem_map.mp hm
    exact .of_reference (typed_referenceTo p) rfl

/-- Two schemas that compose each other. -/
def mutualSchemas : Table Value :=
  ⟨[("Cat", composing ["#/components/schemas/Dog"]),
    ("Dog", composing ["#/components/schemas/Cat"])], by decide⟩

theorem typed_mutualSchemas : TypedSchemas mutualSchemas := by
  intro e he
  rcases List.mem_cons.mp he with rfl | he
  · exact typed_composing _
  · rw [List.mem_singleton.mp he]
    exact typed_composing _

theorem cycle_mutualSchemas : TransGen (Composes mutualSchemas) "Cat" "Cat" := by
  have forth : Composes mutualSchemas "Cat" "Dog" :=
    ⟨by decide, _, List.mem_singleton.mpr rfl, _, rfl, rfl⟩
  have back : Composes mutualSchemas "Dog" "Cat" :=
    ⟨by decide, _, List.mem_singleton.mpr rfl, _, rfl, rfl⟩
  exact .tail (.single forth) back

theorem cycle_detection_mutual :
    TypedSchemas mutualSchemas ∧ ∃ reg,
      Registry.discover (Registry.mappingOf mutualSchemas) = .ok reg ∧
      ∀ j, ∃ s t, ((populated reg).run j).1 = .error (.circular s t) := by
  obtain ⟨reg, discovered, outcome⟩ := cycle_detection_exact typed_mutualSchemas
  refine ⟨typed_mutualSchemas, reg, discovered, fun j => ?_⟩
  obtain ⟨result, w, _, run, cyclic, _⟩ := outcome reg (.inl rfl) j
  obtain ⟨s, t, failed⟩ := cyclic.mpr ⟨"Cat", cycle_mutualSchemas⟩
  exact ⟨s, t, by rw [run, failed]; rfl⟩

end SdkBlueprint.Population
