import SdkBlueprint.Proofs.Conversion
import SdkBlueprint.Proofs.Population.Sessions
import SdkBlueprint.Proofs.References
import SdkBlueprint.Proofs.Schema.Mentions
import SdkBlueprint.Proofs.Schema.Renaming

/-! Members of unions. A finished union has a sub-type for every reference among its members, with
no value or with the one that selects the member; an explicit mapping stands alone, and what it
leaves out is no sub-type. -/
namespace SdkBlueprint
open SdkBlueprint.Document SdkBlueprint.Schema SdkBlueprint.Population

namespace Schema

/-- A reference among the members of the union leads to the key. -/
def Lists (schema : Value) (key : String) : Prop :=
  ∃ m ∈ itemsOf (schema.field "oneOf"), ∃ ref, ref? m = some ref ∧ targetKey ref = .ok key

theorem mem_refKeys {schema : Value} {keys : List String}
    (h : refKeys (schema.field "oneOf") = .ok keys) (key : String) :
    key ∈ keys ↔ Lists schema key := by
  obtain ⟨items, iterated, h⟩ := attempt_bind_ok h
  have each := attempt_mapM_ok h
  constructor
  · intro hk
    obtain ⟨ref, href, leads⟩ := forall₂_exists_left each key hk
    obtain ⟨m, hm, refers⟩ := List.mem_filterMap.mp href
    have isMap : m.isMap = true := isMap_of_ref? refers
    exact ⟨m, mem_itemsOf_of_isMap iterated hm isMap, ref, refers, leads⟩
  · rintro ⟨m, hm, ref, refers, leads⟩
    have listed : ref ∈ items.filterMap ref? :=
      List.mem_filterMap.mpr ⟨m, mem_of_mem_itemsOf iterated hm, refers⟩
    obtain ⟨key', hk, leads'⟩ := forall₂_exists_left each.flip ref listed
    cases leads.symm.trans leads'
    exact hk

/-- The union has a discriminator that names a property. -/
def discriminated (schema : Value) : Bool :=
  (schema.field "discriminator").isMap && isSet (schema.field "discriminator") "propertyName"

theorem discriminator_of_undiscriminated {schema : Value} (h : discriminated schema = false)
    (nameOf : String → String) : discriminator nameOf schema = .ok none := by
  rw [discriminator_eq, ← Bool.not_and, if_pos]
  rw [discriminated, isSet] at h
  rw [h]
  rfl

theorem discriminated_of_none {schema : Value} {nameOf : String → String}
    (h : discriminator nameOf schema = .ok none) : discriminated schema = false := by
  by_contra named
  rw [Bool.not_eq_false, discriminated, isSet] at named
  rw [discriminator_eq, ← Bool.not_and, named, Bool.not_true, if_neg Bool.false_ne_true] at h
  obtain ⟨mapping, _, made⟩ := attempt_bind_ok h
  split at made <;> cases made

/-- The discriminator maps values itself, each to a pointer. -/
structure Maps (schema : Value) (entries : List (Scalar × Value)) : Prop where
  named : discriminated schema = true
  given : isSet (schema.field "discriminator") "mapping" = true
  declared : fieldsOf ((schema.field "discriminator").field "mapping") = .ok entries

theorem Maps.declaredMapping {schema : Value} {entries : List (Scalar × Value)}
    (h : Maps schema entries) (nameOf : String → String) :
    declaredMapping nameOf schema = .ok (Table.ofEntries (entries.map fun e =>
      (e.1.display, nameOf (pointerKey e.2.display)))) := by
  rw [Schema.declaredMapping, if_pos h.given, explicitMapping, h.declared]
  rfl

/-- The value under which a union knows a member: none without a discriminator, one that the
schema maps to it, or the name of the member in lower case, if that tells it from the others. -/
inductive Selects (nameOf : String → String) (schema : Value) : String → Option String → Prop
  | plain {key} (undiscriminated : discriminated schema = false) : Selects nameOf schema key none
  | mapped {key before value target after} (maps : Maps schema (before ++ (value, target) :: after))
      (leads : pointerKey target.display = key)
      (last : ∀ e ∈ after, e.1.display ≠ value.display) :
      Selects nameOf schema key (some value.display)
  | derived {key} (implicit : mapsImplicitly schema = true)
      (alone : ∀ other, Lists schema other → Text.lower (nameOf other) = Text.lower (nameOf key) →
        nameOf other = nameOf key) :
      Selects nameOf schema key (some (Text.lower (nameOf key)))

theorem Selects.discriminated {nameOf : String → String} {schema : Value} {key value : String}
    (h : Selects nameOf schema key (some value)) : discriminated schema = true := by
  cases h with
  | mapped maps => exact maps.named
  | derived implicit =>
      rw [mapsImplicitly, Bool.and_eq_true, Bool.and_eq_true] at implicit
      rw [Schema.discriminated, implicit.1.1, implicit.1.2]
      rfl

/-- The mapping of a discriminator leads from the value of a member to its name. -/
theorem Selects.mapping {nameOf : String → String} {schema : Value} {key value : String}
    {mapping : Table String} (listed : Lists schema key)
    (h : Selects nameOf schema key (some value)) (made : declaredMapping nameOf schema = .ok mapping) :
    mapping.get? value = some (nameOf key) := by
  cases h with
  | mapped maps leads last =>
      next before value target after =>
      cases (maps.declaredMapping nameOf).symm.trans made
      have absent : value.display ∉ (after.reverse.map fun e =>
          (e.1.display, nameOf (pointerKey e.2.display))).map Prod.fst := by
        intro again
        rw [List.map_map] at again
        obtain ⟨e, he, same⟩ := List.mem_map.mp again
        exact last e (List.mem_reverse.mp he) same
      rw [Table.get?_ofEntries, List.map_append, List.map_cons, List.reverse_append,
        List.reverse_cons, ← List.map_reverse, List.append_assoc, lookup_append_of_absent absent,
        List.singleton_append, lookup, if_pos rfl, leads]
  | derived implicit alone =>
      rw [mapsImplicitly, Bool.and_eq_true, Bool.not_eq_true'] at implicit
      rw [Schema.declaredMapping, implicit.2, if_neg Bool.false_ne_true, implicitMapping_eq] at made
      obtain ⟨keys, members, rfl⟩ := attempt_map_ok made
      have whole : refKeys (schema.field "oneOf") = .ok keys := by
        unfold orEmptyList at members
        split at members
        · exact members
        · next empty =>
          obtain ⟨m, hm, _⟩ := listed
          cases oneOf : schema.field "oneOf" with
          | list items =>
              rw [oneOf] at hm empty
              cases items with
              | nil => cases hm
              | cons item items => exact absurd rfl empty
          | _ =>
              rw [oneOf] at hm
              cases hm
      rw [lowerCased, Table.get?_ofEntries]
      apply lookup_of_agreed
      · rw [List.mem_reverse]
        exact List.mem_map_of_mem ((mem_refKeys whole key).mpr listed)
      · intro name member
        rw [List.mem_reverse] at member
        obtain ⟨other, hother, same⟩ := List.mem_map.mp member
        obtain ⟨lower, named⟩ := Prod.mk.inj same
        rw [← named]
        exact alone other ((mem_refKeys whole other).mp hother) lower

end Schema

namespace Population

theorem subTypes_kept {nameOf : String → String} {schema : Value} {d : Option Discriminator}
    {subs : List SubType} (found : discriminator nameOf schema = .ok d)
    (made : subTypes nameOf (schema.field "oneOf") d = .ok subs) {key : String}
    {value : Option String} (listed : Lists schema key) (selects : Selects nameOf schema key value) :
    ⟨nameOf key, value⟩ ∈ subs := by
  cases d with
  | none =>
      have undiscriminated := discriminated_of_none found
      have unvalued : value = none := by
        cases value with
        | none => rfl
        | some v =>
            rw [selects.discriminated] at undiscriminated
            cases undiscriminated
      rw [subTypes, refNames_eq] at made
      obtain ⟨names, hnames, rfl⟩ := attempt_map_ok made
      obtain ⟨keys, hkeys, rfl⟩ := attempt_map_ok hnames
      rw [unvalued, List.map_map]
      exact List.mem_map.mpr ⟨key, (mem_refKeys hkeys key).mpr listed, rfl⟩
  | some d =>
      cases value with
      | none =>
          cases selects with
          | plain undiscriminated =>
              cases (discriminator_of_undiscriminated undiscriminated nameOf).symm.trans found
      | some v =>
          have mapped := selects.mapping listed (discriminator_eq_some found).1
          cases made
          exact List.mem_map.mpr ⟨(v, nameOf key), Table.get?_eq_some_iff.mp mapped, rfl⟩

theorem subTypes_mapped {nameOf : String → String} {schema : Value} {d : Option Discriminator}
    {subs : List SubType} (found : discriminator nameOf schema = .ok d)
    (made : subTypes nameOf (schema.field "oneOf") d = .ok subs)
    {entries : List (Scalar × Value)} (maps : Maps schema entries) :
    ∀ sub ∈ subs, ∃ e ∈ entries,
      sub = ⟨nameOf (pointerKey e.2.display), some e.1.display⟩ := by
  cases d with
  | none =>
      have named := maps.named
      rw [discriminated_of_none found] at named
      cases named
  | some d =>
      have mapping := (discriminator_eq_some found).1
      rw [maps.declaredMapping nameOf] at mapping
      cases made
      intro sub hs
      obtain ⟨⟨value, name⟩, member, rfl⟩ := List.mem_map.mp hs
      rw [← Table.get?_eq_some_iff, ← Except.ok.inj mapping, Table.get?_ofEntries] at member
      obtain ⟨e, he, same⟩ := List.mem_map.mp (List.mem_reverse.mp (mem_of_lookup member))
      cases same
      exact ⟨e, he, rfl⟩

/-- A finished union bears the names that its schema has for its members. -/
theorem Built.union {schemas : Table Value} {nameOf : String → String} {start : Table Model}
    {p : Product} (built : Built schemas nameOf start p)
    (union : classify (schemaAt schemas p.key) = .union) :
    ∃ d, discriminator nameOf (schemaAt schemas p.key) = .ok d ∧
      subTypes nameOf ((schemaAt schemas p.key).field "oneOf") d = .ok p.model.subTypes := by
  cases built with
  | intro part declared keys parts made noted =>
      simp only [readModel, union] at made
      obtain ⟨d, found, _, subs⟩ := (finishedUnion_yields _ _ [] _ _ made).names
      exact ⟨d, found, subs⟩

/-- In whatever state a registry is, a union that a fresh builder has populated has for every
reference among its members a sub-type with the name of the target, under the value by which
the schema selects it. A member that is not selected is lost: to an explicit mapping, which stands
alone, so that all sub-types are from it, or without one to a later member whose name is the same
in lower case. -/
theorem union_members_kept {schemas : Value} {reg : Registry}
    (discovered : Registry.discover schemas = .ok reg) (j : Journal) (past : List Step)
    {s : Session} (reached : s = (Session.opened reg j).after past) (calls : List Call)
    {w : Workshop} (called : w = Call.after s.registry calls ⟨s.registry.records, [], s.journal⟩)
    {key : String} (finished : key ∈ w.finished)
    (union : classify (schemaAt reg.schemas key) = .union) :
    ∃ m, w.records.get? key = some m ∧
      (∀ member value, Lists (schemaAt reg.schemas key) member →
        Selects s.registry.nameOf (schemaAt reg.schemas key) member value →
        ⟨s.registry.nameOf member, value⟩ ∈ m.subTypes) ∧
      ∀ entries, Maps (schemaAt reg.schemas key) entries → ∀ sub ∈ m.subTypes, ∃ e ∈ entries,
        sub = ⟨s.registry.nameOf (pointerKey e.2.display), some e.1.display⟩ := by
  have kept : Kept reg s := reached ▸ (kept_opened discovered j).after past
  have initial : Initial s.registry.schemas s.registry.records := kept.schemas ▸ kept.initial
  have sound : Reached s.registry w := called ▸ reached_after initial calls (.initial s.journal)
  obtain ⟨p, built, rfl, stored⟩ := sound.product finished
  rw [← kept.schemas] at union ⊢
  obtain ⟨d, found, made⟩ := built.union union
  refine ⟨p.model, stored, ?_, ?_⟩
  · intro member value listed selects
    exact subTypes_kept found made listed selects
  · intro entries maps
    exact subTypes_mapped found made maps

/-- A dog, cats in two spellings, and two unions of them: one maps the value of a cat alone, the
other derives one value for both cats. -/
def houseSchemas : Table Value :=
  ⟨[("Cat", .map [(.text "type", .text "object")]),
    ("CAT", .map [(.text "type", .text "object")]),
    ("Dog", .map [(.text "type", .text "object")]),
    ("Feline", .map [
      (.text "oneOf", .list [referenceTo "#/components/schemas/Cat",
        referenceTo "#/components/schemas/CAT"]),
      (.text "discriminator", .map [(.text "propertyName", .text "kind")])]),
    ("Pet", .map [
      (.text "oneOf", .list [referenceTo "#/components/schemas/Cat",
        referenceTo "#/components/schemas/Dog"]),
      (.text "discriminator", .map [
        (.text "propertyName", .text "kind"),
        (.text "mapping", .map [(.text "c", .text "#/components/schemas/Cat")])])])], by decide⟩

theorem pet_lists_members : Lists (schemaAt houseSchemas "Pet") "Cat" ∧
    Lists (schemaAt houseSchemas "Pet") "Dog" := by
  constructor
  · exact ⟨referenceTo "#/components/schemas/Cat", .head _, _, rfl, rfl⟩
  · exact ⟨referenceTo "#/components/schemas/Dog", .tail _ (.head _), _, rfl, rfl⟩

theorem feline_lists_members : Lists (schemaAt houseSchemas "Feline") "Cat" ∧
    Lists (schemaAt houseSchemas "Feline") "CAT" := by
  constructor
  · exact ⟨referenceTo "#/components/schemas/Cat", .head _, _, rfl, rfl⟩
  · exact ⟨referenceTo "#/components/schemas/CAT", .tail _ (.head _), _, rfl, rfl⟩

/-- The cat that a pet maps a value to is a sub-type of it under that value. -/
theorem union_keeps_mapped_cat :
    let reg : Registry := ⟨houseSchemas, houseSchemas.map Registry.skeletonOf⟩
    let w := Call.after reg [⟨"Pet", []⟩] ⟨reg.records, [], []⟩
    Registry.discover (Registry.mappingOf houseSchemas) = .ok reg ∧ "Pet" ∈ w.finished ∧
      ∃ m, w.records.get? "Pet" = some m ∧ ⟨"Cat", some "c"⟩ ∈ m.subTypes := by
  intro reg w
  have discovered : Registry.discover (Registry.mappingOf houseSchemas) = .ok reg := rfl
  have finished : "Pet" ∈ w.finished := by decide +kernel
  have selects : Selects reg.nameOf (schemaAt houseSchemas "Pet") "Cat" (some "c") := by
    refine @Selects.mapped _ _ "Cat" [] (.text "c") (.text "#/components/schemas/Cat") [] ?_ rfl ?_
    · exact ⟨rfl, rfl, rfl⟩
    · intro e he
      cases he
  obtain ⟨m, stored, kept, _⟩ := union_members_kept discovered [] [] (s := Session.opened reg [])
    rfl [⟨"Pet", []⟩] (w := w) rfl finished rfl
  exact ⟨discovered, finished, m, stored, kept "Cat" (some "c") pet_lists_members.1 selects⟩

theorem convert_houseSchemas :
    ∃ b k, (convert .defaults (documentOf houseSchemas)).run [] = (.ok b, k) ∧
      k.warnings = [] ∧ b.nameOf "Cat" = "Cat" ∧ b.nameOf "Dog" = "Dog" ∧
      b.models.map (fun m => (m.key, m.subTypes)) =
        [("Cat", []), ("CAT", []), ("Dog", []), ("Feline", [⟨"CAT", some "cat"⟩]),
          ("Pet", [⟨"Cat", some "c"⟩])] := by
  have evaluated : ((convert .defaults (documentOf houseSchemas)).run []).1.map
        (fun b => (b.nameOf "Cat", b.nameOf "Dog", b.models.map fun m => (m.key, m.subTypes))) =
          .ok ("Cat", "Dog", [("Cat", []), ("CAT", []), ("Dog", []),
            ("Feline", [⟨"CAT", some "cat"⟩]), ("Pet", [⟨"Cat", some "c"⟩])]) ∧
      ((convert .defaults (documentOf houseSchemas)).run []).2.warnings = [] := by
    decide +kernel
  obtain ⟨b, made, read⟩ := attempt_map_ok evaluated.1
  obtain ⟨cat, rest⟩ := Prod.mk.inj read
  obtain ⟨dog, models⟩ := Prod.mk.inj rest
  exact ⟨b, _, Prod.ext made rfl, evaluated.2, cat, dog, models⟩

/-- A member that an explicit mapping leaves out is no sub-type, nor is a member whose value
another one has, and no warning tells of either. -/
theorem union_loses_members :
    ∃ b k, (convert .defaults (documentOf houseSchemas)).run [] = (.ok b, k) ∧ k.warnings = [] ∧
      ∀ e ∈ [("Pet", "Dog"), ("Feline", "Cat")],
        classify (schemaAt houseSchemas e.1) = .union ∧ Lists (schemaAt houseSchemas e.1) e.2 ∧
        ∃ m ∈ b.models, m.key = e.1 ∧ b.nameOf e.2 ∉ m.subTypes.map SubType.name := by
  obtain ⟨b, k, run, silent, cat, dog, models⟩ := convert_houseSchemas
  have stored : ∀ e ∈ [("Feline", [⟨"CAT", some "cat"⟩]), ("Pet", [⟨"Cat", some "c"⟩])],
      ∃ m ∈ b.models, (m.key, m.subTypes) = e := by
    intro e he
    apply List.mem_map.mp
    rw [models]
    exact List.mem_cons_of_mem _ (List.mem_cons_of_mem _ (List.mem_cons_of_mem _ he))
  refine ⟨b, k, run, silent, ?_⟩
  intro e he
  rcases List.mem_cons.mp he with rfl | he
  · obtain ⟨m, member, same⟩ := stored _ (.tail _ (.head _))
    obtain ⟨key, subs⟩ := Prod.mk.inj same
    refine ⟨rfl, pet_lists_members.2, m, member, key, ?_⟩
    rw [subs, dog]
    decide
  · cases List.mem_singleton.mp he
    obtain ⟨m, member, same⟩ := stored _ (.head _)
    obtain ⟨key, subs⟩ := Prod.mk.inj same
    refine ⟨rfl, feline_lists_members.1, m, member, key, ?_⟩
    rw [subs, cat]
    decide

end Population
end SdkBlueprint
