import SdkBlueprint.Proofs.Population.Cycles

/-! Composed models. Every member of a composition contributes properties; the finished
model is the fold of the contributions, under what the schema declares itself. -/
namespace SdkBlueprint.Population
open SdkBlueprint.Document SdkBlueprint.Schema

theorem eraseDups_eraseDups_append {α : Type} [BEq α] [LawfulBEq α] (xs ys : List α) :
    (xs.eraseDups ++ ys).eraseDups = (xs ++ ys).eraseDups := by
  rw [List.eraseDups_append, List.eraseDups_append, eraseDups_of_nodup (nodup_eraseDups xs)]
  simp [List.removeAll]

/-- The validators of all properties, each signature where it comes first. -/
def accumulated (ps : List Property) : List Validator :=
  (ps.flatMap Property.validators).eraseDupsBy Validator.repeats

/-- The property that stands for its occurrences, of which one is the last. If it is asked for it is
not optional, and a validator against emptiness follows the others unless one is among them. -/
structure Joined (asked : Bool) (occurring : List Property) (last p : Property) : Prop where
  rest : p = { last with isOptional := p.isOptional, validators := p.validators }
  free : asked = false → p.isOptional = last.isOptional ∧ p.validators = accumulated occurring
  needed : asked = true → p.isOptional = false
  present : asked = true → (∃ v ∈ accumulated occurring, v.kind = .notEmpty) →
    p.validators = accumulated occurring
  absent : asked = true → (∀ v ∈ accumulated occurring, v.kind ≠ .notEmpty) →
    p.validators = accumulated occurring ++ [⟨.notEmpty, none⟩]

theorem joined_of_demanded (asked : Bool) (occurring : List Property) (last : Property) :
    Joined asked occurring last
      (if asked then demanded { last with validators := accumulated occurring }
        else { last with validators := accumulated occurring }) := by
  cases asked with
  | false => exact ⟨rfl, fun _ => ⟨rfl, rfl⟩, nofun, nofun, nofun⟩
  | true =>
      refine ⟨rfl, nofun, fun _ => rfl, fun _ ⟨v, hv, kind⟩ => ?_, fun _ none => ?_⟩
      · exact if_pos (List.any_eq_true.mpr ⟨v, hv, by rw [kind]; rfl⟩)
      · refine if_neg fun some => ?_
        obtain ⟨v, hv, kind⟩ := List.any_eq_true.mp some
        exact none v hv (beq_iff_eq.mp kind)

theorem Joined.notEmpty {occurring : List Property} {last p : Property}
    (h : Joined true occurring last p) : ∃ v ∈ p.validators, v.kind = .notEmpty := by
  by_cases present : ∃ v ∈ accumulated occurring, v.kind = .notEmpty
  · rw [h.present rfl present]
    exact present
  · rw [h.absent rfl (by simpa using present)]
    exact ⟨⟨.notEmpty, none⟩, List.mem_append_right _ (List.mem_singleton.mpr rfl), rfl⟩

/-- The properties of a composed model are the fold of its contributions, with the demanded
ones made so, and its own properties over them. -/
structure Flattened (members : List Value) (contributed own : List Property) (model : Model) :
    Prop where
  names : model.properties.map Property.name = ((contributed ++ own).map Property.name).eraseDups
  distinct : (model.properties.map Property.name).Nodup
  declared : ∀ p name, (occurrences name own).getLast? = some p → model.property? name = some p
  contributed : ∀ last name, name ∉ own.map Property.name →
    (occurrences name contributed).getLast? = some last →
    ∃ p, model.property? name = some p ∧
      Joined (demandedBy members name) (occurrences name contributed) last p

theorem flattened_of_override {members : List Value} {contributed own : List Property}
    {model : Model} {f : Flattening}
    (extends' : Flattening.Extends Flattening.empty f contributed
      fun name => demandedBy members name)
    (made : model.properties = (override f.withRequired.properties own).values) :
    Flattened members contributed own model := by
  have keyed : f.withRequired.properties.Keyed Property.name := by
    refine Flattening.withRequired_keyed ?_
    rw [extends'.properties]
    exact overlaid_keyed contributed
  have names : model.properties.map Property.name =
      ((contributed ++ own).map Property.name).eraseDups := by
    rw [made, (override_keyed keyed own).names, override_names, Flattening.withRequired_names,
      extends'.properties]
    change ((contributed.foldl overlay Table.empty).names ++ _).eraseDups = _
    rw [overlaid_names, eraseDups_eraseDups_append, List.map_append]
  have found : ∀ name, model.property? name =
      (occurrences name own).getLast?.or (f.withRequired.properties.get? name) := by
    intro name
    rw [← override_get?, ← (override_keyed keyed own).find?, Model.property?, made]
  refine ⟨names, names ▸ nodup_eraseDups _, fun p name last => ?_, fun last name absent hlast => ?_⟩
  · rw [found, last, Option.some_or]
  · refine ⟨_, ?_, joined_of_demanded _ _ last⟩
    have none : occurrences name own = [] := by
      refine List.filter_eq_nil_iff.mpr fun p hp same => absent ?_
      exact List.mem_map.mpr ⟨p, hp, beq_iff_eq.mp same⟩
    have asked : f.required.any (Scalar.same (.text name)) = demandedBy members name := by
      rw [Bool.eq_iff_iff, any_same_text, extends'.required]
      exact or_iff_right List.not_mem_nil
    rw [found, none, List.getLast?_nil, Option.none_or, Flattening.withRequired_get?, asked,
      extends'.properties]
    change ((contributed.foldl overlay Table.empty).get? name).map _ = _
    rw [overlaid_get?, gathered, hlast, Validator.merge_eq_eraseDupsBy, ← List.flatMap_def]
    rfl

section Run

variable {schemas : Table Value} {nameOf : String → String} {start : Table Model}

/-- The record of a finished key is what its schema reads as in the same workshop. -/
theorem Sound.read {w : Workshop} (sound : Sound schemas nameOf start w) (key : String)
    (finished : ∀ t, t = key ∨ Composes schemas key t → t ∈ w.finished) {look : String → Model}
    (shown : Shows w look) : ∃ skeleton notes, start.get? key = some skeleton ∧
      (readModel schemas nameOf look skeleton (schemaAt schemas key)).run [] =
        (.ok (look key), notes) := by
  obtain ⟨p, built, rfl, stored⟩ := sound.product (finished key (.inl rfl))
  have here : look p.key = p.model := by
    have := shown p.key (finished _ (.inl rfl))
    rw [stored] at this
    exact (Option.some.inj this).symm
  cases built with
  | @intro _ skeleton notes part declared keys parts made noted =>
      refine ⟨skeleton, notes, declared, ?_⟩
      rw [here, ← made]
      refine congrArg (fun x : Logged Model => x.run [])
        (readModel_congr nameOf (fun _ => .rfl) _ ?_)
      intro m hm ref hr t ht hk
      have edge : Composes schemas p.key t := ⟨ht, m, hm, ref, hr, hk⟩
      obtain ⟨q, built', hq, stored'⟩ := sound.product (finished t (.inr edge))
      have same := built'.unique (parts t edge) (hq.trans (keys t edge).symm)
      have := shown t (finished t (.inr edge))
      rw [stored', same] at this
      exact (Option.some.inj this).symm

/-- After a whole run every composed model is the fold that its schema describes. -/
theorem History.flattened {j : Journal} {ps : List Product} {w : Workshop}
    (history : History schemas nameOf start j ps w) (initial : Initial schemas start)
    (blank : Blank schemas start) (typed : TypedSchemas schemas) {key : String}
    (registered : key ∈ schemas.names) (composed : classify (schemaAt schemas key) = .composed) :
    ∃ model contributions own, w.records.get? key = some model ∧
      Parts nameOf w.records (schemaAt schemas key) contributions own ∧
      Flattened (composedMembers (schemaAt schemas key)) contributions.flatten own model := by
  have sound : Sound schemas nameOf start w := (Sound.initial j).moves history.moves
  have finished : ∀ t ∈ schemas.names, t ∈ w.finished := by
    intro t ht
    rw [history.moves.finished]
    exact history.complete.mem_iff.mpr ht
  obtain ⟨look, shown, short⟩ := sound.shows_short typed initial blank
  have all : ∀ t ∈ schemas.names, w.records.get? t = some (look t) :=
    fun t ht => shown t (finished t ht)
  obtain ⟨skeleton, notes, _, read⟩ := sound.read key
    (fun t ht => finished t (ht.elim (fun h => h ▸ registered) And.left)) shown
  obtain ⟨cs, own, f, parts, extends', made⟩ := Logged.Succeeds.of_run
    (readModel_composed nameOf (sound.names initial.names) all (typed_schemaAt typed registered)
      composed (fun _ _ _ _ t _ _ => short t) skeleton) read
  exact ⟨look key, cs, own, all key registered, parts, flattened_of_override extends' made⟩

end Run

/-- Over well-typed schemas without cycles population succeeds, and every composed model
is the fold that its members and its own properties describe. -/
theorem flattening_exact {schemas : Table Value} (typed : TypedSchemas schemas)
    (acyclic : ¬ Cyclic schemas) :
    ∃ reg, Registry.discover (Registry.mappingOf schemas) = .ok reg ∧
      ∀ registry, Handed reg registry → ∀ j : Journal, ∃ final k,
        (populated registry).run j = (.ok final, k) ∧
        ∀ key ∈ schemas.names, classify (schemaAt schemas key) = .composed →
          ∃ model contributions own, final.get? key = some model ∧
            Parts registry.nameOf final.records (schemaAt schemas key) contributions own ∧
            Flattened (composedMembers (schemaAt schemas key)) contributions.flatten own model := by
  refine ⟨_, Registry.discover_ok typed, fun registry handed j => ?_⟩
  obtain ⟨same, initial⟩ := handed.initial
  subst same
  obtain ⟨ps, w, run, history⟩ := populateEach_acyclic registry.nameOf initial handed.blank typed
    acyclic j
  exact ⟨_, _, run_populated run, fun key registered composed =>
    history.flattened initial handed.blank typed registered composed⟩

/-- A class with a parent, a mixin and an inline member that requires a property of the mixin. -/
def petSchemas : Table Value :=
  ⟨[("Cat", .map [(.text "allOf", .list [
      referenceTo "#/components/schemas/Pet",
      referenceTo "#/components/schemas/Named",
      .map [(.text "required", .list [.text "name"])]])]),
    ("Pet", .map []),
    ("Named", .map [(.text "properties", .map [
      (.text "name", .map [(.text "type", .text "string")])])])], by decide⟩

theorem typed_petSchemas : TypedSchemas petSchemas := by
  have string : TypedProperty (.map [(.text "type", .text "string")]) := by
    refine ⟨.of_absent ?_ rfl rfl rfl rfl, .of_absent rfl rfl, ?_, rfl⟩
    · exact ⟨typedReference_of_absent rfl, rfl, rfl, rfl, rfl, rfl⟩
    · exact ⟨rfl, rfl, rfl, rfl, rfl, rfl⟩
  have named : TypedClass (.map [(.text "properties", .map [
      (.text "name", .map [(.text "type", .text "string")])])]) := by
    refine ⟨rfl, fun e he => ?_, fun e he => ?_, rfl⟩
    · exact ⟨"name", by rw [List.mem_singleton.mp he]⟩
    · rw [List.mem_singleton.mp he]
      exact string
  have childless : ∀ m ∈ ([] : List Value), TypedMember m :=
    fun _ hm => absurd hm List.not_mem_nil
  intro e he
  simp only [petSchemas, List.mem_cons, List.not_mem_nil, or_false] at he
  rcases he with rfl | rfl | rfl
  · refine ⟨rfl, rfl, .of_absent rfl rfl, .of_absent rfl rfl, rfl, fun m hm => ?_⟩
    change m ∈ [referenceTo _, referenceTo _, _] at hm
    simp only [List.mem_cons, List.not_mem_nil, or_false] at hm
    rcases hm with rfl | rfl | rfl
    · exact .of_reference (typed_referenceTo _) rfl
    · exact .of_reference (typed_referenceTo _) rfl
    · exact ⟨typedReference_of_absent rfl, fun _ => .of_absent rfl rfl⟩
  · exact ⟨rfl, rfl, .of_absent rfl rfl, .of_absent rfl rfl, rfl, childless⟩
  · exact ⟨rfl, rfl, .of_absent rfl rfl, named, rfl, childless⟩

theorem composes_petSchemas {key target : String} (h : Composes petSchemas key target) :
    key = "Cat" ∧ target ∈ ["Pet", "Named"] := by
  have registered : key ∈ ["Cat", "Pet", "Named"] := h.2.registered
  obtain ⟨_, m, hm, ref, hr, ht⟩ := h
  simp only [List.mem_cons, List.not_mem_nil, or_false] at registered
  rcases registered with rfl | rfl | rfl
  · change m ∈ [referenceTo _, referenceTo _, _] at hm
    simp only [List.mem_cons, List.not_mem_nil, or_false] at hm
    rcases hm with rfl | rfl | rfl <;> cases hr <;> cases ht <;> decide
  · cases hm
  · cases hm

theorem acyclic_petSchemas : ¬ Cyclic petSchemas := by
  rintro ⟨key, cycle⟩
  obtain ⟨_, first, _⟩ := Relation.TransGen.head'_iff.mp cycle
  obtain ⟨_, _, last⟩ := Relation.TransGen.tail'_iff.mp cycle
  have source := (composes_petSchemas first).1
  have target := (composes_petSchemas last).2
  rw [source] at target
  revert target
  decide

theorem flattening_petSchemas :
    (TypedSchemas petSchemas ∧ ¬ Cyclic petSchemas) ∧
      ∃ reg final k model contributions own,
        Registry.discover (Registry.mappingOf petSchemas) = .ok reg ∧
        (populated reg).run [] = (.ok final, k) ∧ final.get? "Cat" = some model ∧
        Parts reg.nameOf final.records (schemaAt petSchemas "Cat") contributions own ∧
        Flattened (composedMembers (schemaAt petSchemas "Cat")) contributions.flatten own
          model := by
  refine ⟨⟨typed_petSchemas, acyclic_petSchemas⟩, ?_⟩
  obtain ⟨reg, discovered, outcome⟩ := flattening_exact typed_petSchemas acyclic_petSchemas
  obtain ⟨final, k, run, composed⟩ := outcome reg (.inl rfl) []
  obtain ⟨model, contributions, own, made⟩ := composed "Cat" (by decide) rfl
  exact ⟨reg, final, k, model, contributions, own, discovered, run, made⟩

end SdkBlueprint.Population
