import SdkBlueprint.Proofs.Population.References
import SdkBlueprint.Proofs.Schema.Renaming

/-! Models under two namings of the keys. What is built of a schema has the same shape and the
same properties; only the names in their types and mappings are those of the one naming or the
other. -/
namespace SdkBlueprint.Population
open SdkBlueprint.Document SdkBlueprint.Schema

section Properties

variable {n n' : String → String}

/-- The properties come from one node and differ in the names of keys alone. -/
structure SameProperty (n n' : String → String) (node : Value) (p p' : Property) : Prop where
  name : p'.name = p.name
  isOptional : p'.isOptional = p.isOptional
  isReadonly : p'.isReadonly = p.isReadonly
  description : p'.description = p.description
  validators : p'.validators = p.validators
  type : TypeExpr.Corresponds (Mentions node) n n' p.type p'.type
  discriminator : Option.Rel (DiscriminatorsCorrespond n n' (schemaMap node)) p.discriminator
    p'.discriminator

theorem facetOf_agree (schema : Value) : Agree (Option.Rel (DiscriminatorsCorrespond n n' schema))
    (facetOf n schema) (facetOf n' schema) := by
  unfold facetOf
  split
  · exact discriminator_agree schema
  · exact .ok .none

theorem discriminatorFacet_agree (name schema : Value) (owner : String) :
    Logged.Agree (Option.Rel (DiscriminatorsCorrespond n n' schema))
      (discriminatorFacet n name schema owner) (discriminatorFacet n' name schema owner) :=
  .of_yields (discriminatorFacet_yields n name schema owner)
    (discriminatorFacet_yields n' name schema owner) fun d d' => facetOf_agree schema d d'

theorem property_agree (name : Scalar) (node : Value) (required : Bool) (owner : String) :
    Logged.Agree (fun p p' => name = .text p.name ∧ SameProperty n n' node p p')
      (property n (.scalar name) node required owner)
      (property n' (.scalar name) node required owner) := by
  unfold property
  refine (discriminatorFacet_agree _ _ owner).bind fun d d' facet => ?_
  refine (Logged.Agree.attempt (resolve_agree node fun _ h => h)).bind fun t t' type => ?_
  refine (Logged.Agree.attempt (.same _)).bind ?_
  rintro _ facts ⟨rfl, _⟩
  simp only []
  split
  · next text _ named _ =>
    refine .pure ⟨?_, rfl, rfl, rfl, rfl, rfl, type, facet⟩
    obtain ⟨s, hs⟩ := text_of_isSome (Option.isSome_of_eq_some named)
    cases hs
    cases named
    rfl
  · exact .throw_left

/-- The properties that a schema declares itself are the same under both namings. -/
theorem ownProperties_agree (schema : Value) (owner : String) :
    Logged.Agree (List.Forall₂ fun p p' => ∃ node, DeclaresProperty schema p.name node ∧
        SameProperty n n' node p p')
      (ownProperties n schema owner) (ownProperties n' schema owner) := by
  unfold ownProperties
  intro i j k l ps ps' run run'
  obtain ⟨declared, _, hd, run⟩ := Logged.run_bind_ok run
  obtain ⟨declared', _, hd', run'⟩ := Logged.run_bind_ok run'
  rw [Logged.run_attempt] at hd hd'
  have known := (Prod.mk.inj hd).1
  cases known.symm.trans (Prod.mk.inj hd').1
  refine Logged.Agree.mapM (fun e he => ?_) _ _ _ _ ps ps' run run'
  refine (property_agree e.1 e.2 _ owner).mono ?_
  rintro p p' ⟨named, same⟩
  exact ⟨e.2, ⟨declared, known, named ▸ he⟩, same⟩

end Properties

section Flattening

variable {schemas : Table Value} {n n' : String → String} {look look' : String → Model}

/-- A relation that the steps of flattening respect: they set validators and demand properties,
in the same way on both sides. -/
structure Facetwise (R : Property → Property → Prop) : Prop where
  name : ∀ {p p'}, R p p' → p'.name = p.name
  validators : ∀ {p p'}, R p p' → p'.validators = p.validators
  validated : ∀ {p p'} vs, R p p' → R { p with validators := vs } { p' with validators := vs }
  required : ∀ {p p'}, R p p' → R { p with isOptional := false } { p' with isOptional := false }

/-- The flattenings have the same properties and require the same names. -/
structure SameFlattening (R : Property → Property → Prop) (f f' : Flattening) : Prop where
  properties : Table.Pairs R f.properties f'.properties
  required : f'.required = f.required

variable {R : Property → Property → Prop} (facetwise : Facetwise R)

include facetwise

theorem overlay_pairs {t t' : Table Property} (h : Table.Pairs R t t') {p p' : Property}
    (same : R p p') : Table.Pairs R (overlay t p) (overlay t' p') := by
  have earlier : (t'.get? p'.name).map Property.validators =
      (t.get? p.name).map Property.validators := by
    have held := h.get? p.name
    rw [facetwise.name same]
    generalize t.get? p.name = before at held
    generalize t'.get? p.name = before' at held
    cases held with
    | none => rfl
    | some held => exact congrArg some (facetwise.validators held)
  unfold overlay inherit
  rw [earlier, facetwise.validators same]
  exact h.put (facetwise.name same) (facetwise.validated _ same)

theorem addProperties_agree (current source source' : String) {f f' : Flattening}
    (h : SameFlattening R f f') {ps ps' : List Property} (each : List.Forall₂ R ps ps') :
    Logged.Agree (SameFlattening R) (f.addProperties current source ps)
      (f'.addProperties current source' ps') := by
  intro i j k l g g' run run'
  have made := Flattening.addProperties_yields current source f ps _ _ _ run
  have made' := Flattening.addProperties_yields current source' f' ps' _ _ _ run'
  rw [made, made']
  exact ⟨Table.Pairs.foldl (fun _ _ _ _ pairs same => overlay_pairs facetwise pairs same) each
    h.properties, h.required⟩

theorem demanded_same {p p' : Property} (h : R p p') : R (demanded p) (demanded p') := by
  unfold demanded
  rw [facetwise.validators h]
  exact facetwise.validated _ (facetwise.required h)

theorem withRequired_same {f f' : Flattening} (h : SameFlattening R f f') :
    SameFlattening R f.withRequired f'.withRequired := by
  refine ⟨?_, h.required⟩
  refine h.properties.map fun name p p' same => ?_
  rw [h.required]
  split
  · exact demanded_same facetwise same
  · exact same

omit facetwise in
theorem require_agree {f f' : Flattening} (h : SameFlattening R f f') (names : List Value) :
    Agree (SameFlattening R) (f.require names) (f'.require names) := by
  unfold Flattening.require
  refine (Agree.same _).bind ?_
  rintro _ scalars ⟨rfl, _⟩
  exact .ok ⟨h.properties, by rw [h.required]⟩

theorem addInline_agree (current : String) {f f' : Flattening} (h : SameFlattening R f f')
    {member : Value} (declares : Logged.Agree (List.Forall₂ R) (ownProperties n member current)
      (ownProperties n' member current)) :
    Logged.Agree (SameFlattening R) (f.addInline n current member)
      (f'.addInline n' current member) := by
  unfold Flattening.addInline
  refine declares.bind fun ps ps' each => ?_
  refine (addProperties_agree facetwise current _ _ h each).bind fun g g' same => ?_
  exact .attempt (require_agree same _)

theorem takeUp_agree (current : String) (isFirst : Bool) {f f' : Flattening}
    (h : SameFlattening R f f') {m m' : Model}
    (each : isFirst = false → List.Forall₂ R m.properties m'.properties) :
    Logged.Agree (SameFlattening R) (takeUp current isFirst f m)
      (takeUp current isFirst f' m') := by
  unfold takeUp
  cases isFirst with
  | true => exact .pure ⟨h.properties, h.required⟩
  | false =>
      have kept : SameFlattening R { f with mixins := f.mixins ++ [m.name] }
          { f' with mixins := f'.mixins ++ [m'.name] } := ⟨h.properties, h.required⟩
      exact addProperties_agree facetwise current m.name m'.name kept (each rfl)

theorem readMember_agree (current : String) (isFirst : Bool) {f f' : Flattening}
    (h : SameFlattening R f f') {member : Value}
    (inline : ref? member = none → member.isMap = true → Logged.Agree (List.Forall₂ R)
      (ownProperties n member current) (ownProperties n' member current))
    (mixin : isFirst = false → ∀ t, pointsAt? schemas member = some t →
      List.Forall₂ R (look t).properties (look' t).properties) :
    Logged.Agree (SameFlattening R) (readMember schemas n look current isFirst f member)
      (readMember schemas n' look' current isFirst f' member) := by
  unfold readMember
  cases hr : ref? member with
  | none =>
      simp only []
      split
      · next object => exact addInline_agree facetwise current h (inline hr object)
      · exact .pure h
  | some ref =>
      unfold readReference
      refine (Logged.Agree.attempt (.same _)).bind ?_
      rintro _ t ⟨rfl, ht⟩
      split
      · next known =>
        refine takeUp_agree facetwise current isFirst h fun later => mixin later _ ?_
        rw [pointsAt?, hr, Option.bind_some, ht]
        simp [Except.toOption, known]
      · exact .next fun _ _ => .pure h

theorem readMembers_agree (current : String) (isFirst : Bool) {f f' : Flattening}
    (h : SameFlattening R f f') {members : List Value}
    (inline : ∀ m ∈ members, ref? m = none → m.isMap = true → Logged.Agree (List.Forall₂ R)
      (ownProperties n m current) (ownProperties n' m current))
    (mixin : ∀ m ∈ (if isFirst then members.tail else members), ∀ t,
      pointsAt? schemas m = some t → List.Forall₂ R (look t).properties (look' t).properties) :
    Logged.Agree (SameFlattening R) (readMembers schemas n look current isFirst f members)
      (readMembers schemas n' look' current isFirst f' members) := by
  induction members generalizing isFirst f f' with
  | nil => exact .pure h
  | cons m rest ih =>
      refine (readMember_agree facetwise current isFirst h (inline m (by simp))
        fun later => mixin m (by simp [later])).bind fun g g' same => ?_
      refine ih false same (fun m hm => inline m (List.mem_cons_of_mem _ hm)) fun m hm => ?_
      refine mixin m ?_
      cases isFirst with
      | true => exact hm
      | false => exact List.mem_cons_of_mem _ hm

theorem readAllOf_agree (current : String) {allOf : Value}
    (inline : ∀ m ∈ itemsOf allOf, ref? m = none → Logged.Agree (List.Forall₂ R)
      (ownProperties n m current) (ownProperties n' m current))
    (mixin : ∀ m ∈ (itemsOf allOf).tail, ∀ t, pointsAt? schemas m = some t →
      List.Forall₂ R (look t).properties (look' t).properties) :
    Logged.Agree (SameFlattening R) (readAllOf schemas n look current allOf)
      (readAllOf schemas n' look' current allOf) := by
  unfold readAllOf
  refine (Logged.Agree.attempt (.same _)).bind ?_
  rintro _ members ⟨rfl, hi⟩
  refine (readMembers_agree facetwise current true ⟨.empty, rfl⟩ (fun m hm plain object => ?_)
    fun m hm t points => ?_).bind fun g g' same => .pure (withRequired_same facetwise same)
  · exact inline m (mem_itemsOf_of_isMap hi hm object) plain
  · obtain ⟨ref, hr, _⟩ := Option.bind_eq_some_iff.mp points
    rcases iterate_cases hi with rfl | ⟨_, others⟩
    · exact mixin m hm t points
    · cases (others m (List.mem_of_mem_tail hm)).symm.trans (isMap_of_ref? hr)

end Flattening

section Models

variable {schemas : Table Value} {n n' : String → String}

/-- The properties are found under one node, and only names of keys tell them apart. -/
def PropertiesCorrespond (schemas : Table Value) (n n' : String → String) (key : String)
    (p p' : Property) : Prop :=
  ∃ node, Supplies schemas key p.name node ∧ SameProperty n n' node p p'

theorem propertiesCorrespond_facetwise (key : String) :
    Facetwise (PropertiesCorrespond schemas n n' key) := by
  constructor
  · rintro p p' ⟨node, supplies, same⟩
    exact same.name
  · rintro p p' ⟨node, supplies, same⟩
    exact same.validators
  · rintro p p' vs ⟨node, supplies, same⟩
    exact ⟨node, supplies, { same with validators := rfl }⟩
  · rintro p p' ⟨node, supplies, same⟩
    exact ⟨node, supplies, { same with isOptional := rfl }⟩

/-- The models have the shape of the schema, and their enumerations and properties are alike. -/
structure SameShape (schemas : Table Value) (n n' : String → String) (key : String)
    (m m' : Model) : Prop where
  shape : m.shape = classify (schemaAt schemas key)
  shape' : m'.shape = classify (schemaAt schemas key)
  isEnum : m'.isEnum = m.isEnum
  enumValues : m'.enumValues = m.enumValues
  properties : List.Forall₂ (PropertiesCorrespond schemas n n' key) m.properties m'.properties

variable {look look' : String → Model} {key : String} {model : Model}

theorem override_pairs {R : Property → Property → Prop} (facetwise : Facetwise R)
    {t t' : Table Property} (h : Table.Pairs R t t') {own own' : List Property}
    (each : List.Forall₂ R own own') :
    Table.Pairs R (override t own) (override t' own') :=
  Table.Pairs.foldl (fun _ _ _ _ pairs same => pairs.put (facetwise.name same) same) each h

theorem supplied_agree {schema : Value} (owner : String)
    (supplied : ∀ name node, DeclaresProperty schema name node → Supplies schemas key name node) :
    Logged.Agree (List.Forall₂ (PropertiesCorrespond schemas n n' key))
      (ownProperties n schema owner) (ownProperties n' schema owner) := by
  refine (ownProperties_agree schema owner).mono fun ps ps' each => each.imp ?_
  rintro p p' ⟨node, declares, same⟩
  exact ⟨node, supplied _ _ declares, same⟩

theorem readClass_agree (name : String)
    (parts : ∀ t, Composes schemas key t → List.Forall₂ (PropertiesCorrespond schemas n n' t)
      (look t).properties (look' t).properties) :
    Logged.Agree (SameShape schemas n n' key)
      (readClass schemas n look model (schemaAt schemas key) (classify (schemaAt schemas key)))
      (readClass schemas n' look' (model.withName name) (schemaAt schemas key)
        (classify (schemaAt schemas key))) := by
  have facetwise : Facetwise (PropertiesCorrespond schemas n n' key) :=
    propertiesCorrespond_facetwise key
  have last : ∀ f f', SameFlattening (PropertiesCorrespond schemas n n' key) f f' →
      Logged.Agree (SameShape schemas n n' key)
        (do
          let own ← ownProperties n (schemaAt schemas key) model.key
          pure
            { model with
              shape := classify (schemaAt schemas key)
              isEnum := false
              properties := (override f.properties own).values
              parent := f.parent })
        (do
          let own ← ownProperties n' (schemaAt schemas key) model.key
          pure
            { model.withName name with
              shape := classify (schemaAt schemas key)
              isEnum := false
              properties := (override f'.properties own).values
              parent := f'.parent }) := by
    intro f f' same
    refine (supplied_agree _ fun name node => .own).bind fun own own' each => .pure ?_
    exact ⟨rfl, rfl, rfl, rfl, (override_pairs facetwise same.properties each).values⟩
  unfold readClass
  by_cases composed : classify (schemaAt schemas key) = .composed
  · have members : composedMembers (schemaAt schemas key) =
        itemsOf ((schemaAt schemas key).field "allOf") := if_pos composed
    simp only [beq_iff_eq.mpr composed, if_true]
    refine Logged.Agree.bind ?_ last
    refine readAllOf_agree facetwise model.key (fun m hm plain => ?_) fun m hm t points => ?_
    · exact supplied_agree _ fun name node => .inline (members ▸ hm) plain
    · have member := List.mem_of_mem_tail hm
      rw [← members] at hm member
      refine (parts t (composes_of_points member points)).imp ?_
      rintro p p' ⟨node, supplies, same⟩
      exact ⟨node, .mixin hm points supplies, same⟩
  · simp only [beq_eq_false_iff_ne.mpr composed, Bool.false_eq_true, if_false]
    exact Logged.Agree.bind (.pure ⟨.empty, rfl⟩) last

/-- A schema is read as the same under both namings, if its parts are. -/
theorem readModel_agree (name : String) (bare : Bare model)
    (parts : ∀ t, Composes schemas key t → List.Forall₂ (PropertiesCorrespond schemas n n' t)
      (look t).properties (look' t).properties) :
    Logged.Agree (SameShape schemas n n' key)
      (readModel schemas n look model (schemaAt schemas key))
      (readModel schemas n' look' (model.withName name) (schemaAt schemas key)) := by
  cases hc : classify (schemaAt schemas key) with
  | enumeration =>
      simp only [readModel, hc]
      refine .attempt fun m m' made made' => ?_
      obtain ⟨items, hi, made⟩ := attempt_bind_ok made
      obtain ⟨items', hi', made'⟩ := attempt_bind_ok made'
      cases hi.symm.trans hi'
      obtain ⟨values, hv, made⟩ := attempt_bind_ok made
      obtain ⟨values', hv', made'⟩ := attempt_bind_ok made'
      cases hv.symm.trans hv'
      cases made
      cases made'
      refine ⟨hc.symm, hc.symm, rfl, rfl, ?_⟩
      rw [Model.withName, bare.properties]
      exact .nil
  | union =>
      simp only [readModel, hc]
      refine .of_yields (finishedUnion_yields model _) (finishedUnion_yields _ _) ?_
      intro m m' made made'
      refine ⟨made.shape.trans hc.symm, made'.shape.trans hc.symm,
        made'.isEnum.trans made.isEnum.symm, made'.enumValues.trans made.enumValues.symm, ?_⟩
      rw [made.properties, made'.properties]
      exact .nil
  | composed =>
      simp only [readModel, hc]
      exact hc ▸ readClass_agree name parts
  | object =>
      simp only [readModel, hc]
      exact hc ▸ readClass_agree name parts

/-- Records that differ in their names at most. -/
def SameButNames (start start' : Table Model) : Prop :=
  ∀ key m, start.get? key = some m → ∃ name, start'.get? key = some (m.withName name)

/-- What is built of a key under the one naming and under the other is alike. The induction is
on the parts of the first. -/
theorem Built.agree {start start' : Table Model} (skeletons : SameButNames start start')
    (bare : ∀ key m, start.get? key = some m → Bare m) {p p' : Product}
    (built : Built schemas n start p) (built' : Built schemas n' start' p')
    (same : p'.key = p.key) : SameShape schemas n n' p.key p.model p'.model := by
  induction built generalizing p' with
  | @intro p skeleton notes part declared keys parts made noted ih =>
      cases built' with
      | @intro _ skeleton' notes' part' declared' keys' parts' made' noted' =>
          rw [same] at declared' keys' parts' made'
          obtain ⟨name, renamed⟩ := skeletons _ _ declared
          cases renamed.symm.trans declared'
          refine readModel_agree name (bare _ _ declared) (fun t edge => ?_) [] [] _ _ _ _ made
            made'
          have part_same := ih t edge (parts' t edge) ((keys' t edge).trans (keys t edge).symm)
          rw [keys t edge] at part_same
          exact part_same.properties

end Models

section SubTypes

variable {n n' : String → String} {schema : Value}

/-- The sub-types that a mapping selects by its values. -/
def selected (mapping : Table String) : List SubType :=
  mapping.entries.map fun e => ⟨e.2, some e.1⟩

/-- The sub-types of a union. Values that the schema gives are the same; without any they come
from the names themselves, those of the same members in the same order. -/
inductive SubTypesCorrespond (n n' : String → String) (schema : Value) :
    List SubType → List SubType → Prop
  | explicit {subs subs'} (given : mapsImplicitly schema = false)
      (each : List.Forall₂ (fun s s' => s'.value = s.value ∧
        SameTarget n n' schema s.name s'.name) subs subs') :
      SubTypesCorrespond n n' schema subs subs'
  | implicit {keys} (absent : mapsImplicitly schema = true)
      (members : refKeys (orEmptyList (schema.field "oneOf")) = .ok keys) :
      SubTypesCorrespond n n' schema (selected (lowerCased n keys)) (selected (lowerCased n' keys))

theorem mapsImplicitly_of_undiscriminated (h : discriminator n schema = .ok none) :
    mapsImplicitly schema = false := by
  rw [discriminator_eq] at h
  split at h
  · next unnamed =>
    rw [← Bool.not_and, Bool.not_eq_true'] at unnamed
    rw [mapsImplicitly, isSet, unnamed, Bool.false_and]
  · obtain ⟨mapping, _, made⟩ := attempt_bind_ok h
    split at made <;> cases made

theorem targets_of_refKeys {keys : List String} (h : refKeys (schema.field "oneOf") = .ok keys) :
    ∀ key ∈ keys, Targets schema key := by
  have names : refNames id (schema.field "oneOf") = .ok keys := by
    rw [refNames_eq, h]
    exact congrArg Except.ok (List.map_id keys)
  intro key hk
  obtain ⟨_, targets, rfl⟩ := refNames_targets names key hk
  exact targets

/-- The sub-types that a union has under the one naming and under the other. -/
theorem subTypes_correspond {d d' : Option Discriminator} {subs subs' : List SubType}
    (found : discriminator n schema = .ok d) (found' : discriminator n' schema = .ok d')
    (h : subTypes n (schema.field "oneOf") d = .ok subs)
    (h' : subTypes n' (schema.field "oneOf") d' = .ok subs') :
    d'.map Discriminator.propertyName = d.map Discriminator.propertyName ∧
      SubTypesCorrespond n n' schema subs subs' := by
  cases discriminator_agree schema d d' found found' with
  | none =>
      refine ⟨rfl, .explicit (mapsImplicitly_of_undiscriminated found) ?_⟩
      rw [subTypes, refNames_eq] at h h'
      obtain ⟨names, hnames, rfl⟩ := attempt_map_ok h
      obtain ⟨names', hnames', rfl⟩ := attempt_map_ok h'
      obtain ⟨keys, hkeys, rfl⟩ := attempt_map_ok hnames
      obtain ⟨keys', hkeys', rfl⟩ := attempt_map_ok hnames'
      cases hkeys.symm.trans hkeys'
      rw [List.map_map, List.map_map]
      refine List.forall₂_map_left_iff.mpr (List.forall₂_map_right_iff.mpr ?_)
      exact List.forall₂_same.mpr fun key hk =>
        ⟨rfl, key, targets_of_refKeys hkeys key hk, rfl, rfl⟩
  | @some d d' same =>
      refine ⟨congrArg some same.propertyName, ?_⟩
      cases h
      cases h'
      obtain ⟨name, mapping⟩ := d
      obtain ⟨name', mapping'⟩ := d'
      cases same.mapping with
      | explicit given each =>
          refine .explicit given (List.rel_map ?_ each)
          rintro e e' ⟨value, target⟩
          exact ⟨congrArg some value, target⟩
      | implicit absent members => exact .implicit absent members

theorem Rendered.unions_correspond {schemas : Table Value} {key : String} {m m' : Model}
    (h : Rendered schemas n key m) (h' : Rendered schemas n' key m')
    (union : classify (schemaAt schemas key) = .union) :
    m'.discriminator = m.discriminator ∧
      SubTypesCorrespond n n' (schemaAt schemas key) m.subTypes m'.subTypes := by
  obtain ⟨d, found, named, subs⟩ := h.union union
  obtain ⟨d', found', named', subs'⟩ := h'.union union
  rw [named, named']
  exact subTypes_correspond found found' subs subs'

end SubTypes

end SdkBlueprint.Population
