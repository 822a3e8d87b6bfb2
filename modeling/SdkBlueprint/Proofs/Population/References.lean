import SdkBlueprint.Proofs.Population.Calls

/-! References in finished models. Population leaves the identity of a record alone, so that a
reference is named alike whenever it is read; and every name in a finished model is that of
the record at which a reference of its schema points. -/
namespace SdkBlueprint

namespace Population
open SdkBlueprint.Document SdkBlueprint.Schema Relation

/-- What the build of a model leaves as it is. -/
structure SameIdentity (m m' : Model) : Prop where
  key : m.key = m'.key
  name : m.name = m'.name
  fileName : m.fileName = m'.fileName
  description : m.description = m'.description

/-- A record of which nothing but its identity is known. -/
structure Bare (m : Model) : Prop where
  properties : m.properties = []
  parent : m.parent = none
  subTypes : m.subTypes = []
  discriminator : m.discriminator = none

section Properties

variable (nameOf : String → String)

/-- The types of a property under the given names are those of the node. -/
structure Renders (node : Value) (p : Property) : Prop where
  type : resolve nameOf node = .ok p.type
  discriminator : facetOf nameOf (schemaMap node) = .ok p.discriminator

/-- The schema declares a property of the name by itself. -/
def DeclaresProperty (schema : Value) (name : String) (node : Value) : Prop :=
  ∃ declared, declaredProperties schema = .ok declared ∧ (.text name, node) ∈ declared

theorem discriminatorFacet_yields (name schema : Value) (owner : String) :
    Logged.Yields (fun d => facetOf nameOf schema = .ok d)
      (discriminatorFacet nameOf name schema owner) := by
  unfold discriminatorFacet facetOf
  split
  · refine (Logged.Yields.attempt fun d hd => hd).bind fun d hd => ?_
    cases d with
    | none => exact .pure hd
    | some d => exact .next fun _ => .pure hd
  · exact .pure rfl

theorem property_yields (name : Scalar) (schema : Value) (required : Bool) (owner : String) :
    Logged.Yields (fun p => name = .text p.name ∧ Renders nameOf schema p)
      (property nameOf (.scalar name) schema required owner) := by
  unfold property
  refine (discriminatorFacet_yields nameOf _ _ owner).bind fun disc hdisc => ?_
  refine (Logged.Yields.attempt fun type h => h).bind fun type htype => .next fun facts => ?_
  simp only []
  split
  · next text _ named _ =>
    refine .pure ⟨?_, htype, hdisc⟩
    obtain ⟨s, hs⟩ := text_of_isSome (Option.isSome_of_eq_some named)
    cases hs
    cases named
    rfl
  · intro j p k run
    cases run

theorem ownProperties_yields (schema : Value) (owner : String) :
    Logged.Yields (fun ps => ∀ p ∈ ps, ∃ node, DeclaresProperty schema p.name node ∧
        Renders nameOf node p) (ownProperties nameOf schema owner) := by
  unfold ownProperties
  refine (Logged.Yields.attempt fun declared h => h).bind fun declared hd => ?_
  refine (Logged.Yields.mapM (T := fun e p => e ∈ declared ∧ e.1 = .text p.name ∧
    Renders nameOf e.2 p) fun e he => ?_).mono fun ps all => ?_
  · exact (property_yields nameOf _ _ _ _).mono fun p hp => ⟨he, hp⟩
  · refine forall₂_right (all.imp fun e p ⟨he, named, renders⟩ => ?_)
    exact ⟨e.2, ⟨declared, hd, named ▸ he⟩, renders⟩

end Properties

/-- Iterating over anything but a list yields nothing that has fields. -/
theorem iterate_cases {v : Value} {members : List Value} (h : iterate v = .ok members) :
    members = itemsOf v ∨ itemsOf v = [] ∧ ∀ m ∈ members, m.isMap = false := by
  cases v with
  | list items => exact .inl (Except.ok.inj h).symm
  | _ =>
      refine .inr ⟨rfl, fun m hm => Bool.eq_false_iff.mpr fun hmap => ?_⟩
      cases mem_itemsOf_of_isMap h hm hmap

section Members

variable {schemas : Table Value} (nameOf : String → String) (look : String → Model)

/-- What holds of a property by its name, its type and its discriminator. -/
def Typewise (Q : Property → Prop) : Prop :=
  ∀ p q : Property, p.name = q.name → p.type = q.type → p.discriminator = q.discriminator →
    Q p → Q q

variable {Q : Property → Prop} (typewise : Typewise Q)

/-- The key of the registered schema at which a member points. -/
def pointsAt? (schemas : Table Value) (member : Value) : Option String :=
  (ref? member).bind fun ref => (targetKey ref).toOption.filter fun t => t ∈ schemas.names

/-- A step of flattening: its properties have `Q` if the earlier ones have, and it finds the
parent unless it is known. -/
def Takes (Q : Property → Prop) (parent : Option String) (f g : Flattening) : Prop :=
  ((∀ p ∈ f.properties.values, Q p) → ∀ p ∈ g.properties.values, Q p) ∧
    g.parent = parent.or f.parent

theorem Takes.refl (f : Flattening) : Takes Q none f f := ⟨id, (Option.none_or ..).symm⟩

theorem require_eq {f g : Flattening} {names : List Value} (h : f.require names = .ok g) :
    ∃ required, g = { f with required := required } := by
  obtain ⟨scalars, _, made⟩ := attempt_bind_ok h
  exact ⟨_, (Except.ok.inj made).symm⟩

include typewise

theorem addProperties_takes (current source : String) (f : Flattening) {ps : List Property}
    (h : ∀ p ∈ ps, Q p) :
    Logged.Yields (Takes Q none f) (f.addProperties current source ps) := by
  intro j g k run
  have made := Flattening.addProperties_yields current source f ps j g k run
  refine ⟨fun before => ?_, by rw [made, Option.none_or]⟩
  rw [made]
  refine Table.forall_values_foldl_put Property.name (fun t p => inherit (t.get? p.name) p)
    (fun t p hp _ => ?_) before
  exact typewise p _ rfl rfl rfl (h p hp)

theorem takeUp_takes (current : String) (isFirst : Bool) (f : Flattening) {model : Model}
    (h : isFirst = false → ∀ p ∈ model.properties, Q p) :
    Logged.Yields (Takes Q (if isFirst then some model.name else none) f)
      (takeUp current isFirst f model) := by
  unfold takeUp
  cases isFirst with
  | true => exact .pure ⟨id, (Option.some_or ..).symm⟩
  | false =>
      exact addProperties_takes typewise current model.name
        { f with mixins := f.mixins ++ [model.name] } (h rfl)

theorem addInline_takes (current : String) (f : Flattening) {member : Value}
    (h : ∀ p node, DeclaresProperty member p.name node → Renders nameOf node p → Q p) :
    Logged.Yields (Takes Q none f) (f.addInline nameOf current member) := by
  unfold Flattening.addInline
  refine (ownProperties_yields nameOf member current).bind fun ps declared => ?_
  have all : ∀ p ∈ ps, Q p := by
    intro p hp
    obtain ⟨node, declares, renders⟩ := declared p hp
    exact h p node declares renders
  refine (addProperties_takes typewise current _ f all).bind fun g hg => ?_
  refine Logged.Yields.attempt fun g' required => ?_
  obtain ⟨scalars, rfl⟩ := require_eq required
  exact hg

/-- A member of a composition is taken up: the first reference as the parent, a later one by
the properties of its target, an inline member by its own. -/
theorem readMember_takes (current : String) (isFirst : Bool) (f : Flattening) {member : Value}
    (inline : ref? member = none → ∀ p node, DeclaresProperty member p.name node →
      Renders nameOf node p → Q p)
    (mixin : isFirst = false → ∀ t, pointsAt? schemas member = some t →
      ∀ p ∈ (look t).properties, Q p) :
    Logged.Yields (Takes Q (if isFirst then (pointsAt? schemas member).map fun t => (look t).name
      else none) f) (readMember schemas nameOf look current isFirst f member) := by
  unfold readMember
  cases hr : ref? member with
  | none =>
      have nowhere : pointsAt? schemas member = none := by rw [pointsAt?, hr, Option.bind_none]
      simp only [nowhere, Option.map_none, ite_self]
      split
      · exact addInline_takes nameOf typewise current f (inline hr)
      · exact .pure (.refl f)
  | some ref =>
      unfold readReference
      refine (Logged.Yields.attempt fun t ht => ht).bind fun t ht => ?_
      have points : pointsAt? schemas member = if t ∈ schemas.names then some t else none := by
        rw [pointsAt?, hr, Option.bind_some, ht]
        by_cases known : t ∈ schemas.names <;> simp [Except.toOption, known]
      by_cases known : t ∈ schemas.names
      · rw [if_pos known] at points
        rw [points] at mixin ⊢
        rw [if_pos known]
        exact takeUp_takes typewise current isFirst f fun later => mixin later t rfl
      · rw [if_neg known] at points
        simp only [points, Option.map_none, ite_self, if_neg known]
        exact .next fun _ => .pure (.refl f)

theorem readMembers_takes (current : String) (isFirst : Bool) (f : Flattening)
    {members : List Value}
    (inline : ∀ m ∈ members, ref? m = none → ∀ p node, DeclaresProperty m p.name node →
      Renders nameOf node p → Q p)
    (mixin : ∀ m ∈ (if isFirst then members.tail else members), ∀ t,
      pointsAt? schemas m = some t → ∀ p ∈ (look t).properties, Q p) :
    Logged.Yields (Takes Q (if isFirst then (members.head?.bind (pointsAt? schemas)).map
      fun t => (look t).name else none) f)
      (readMembers schemas nameOf look current isFirst f members) := by
  induction members generalizing isFirst f with
  | nil =>
      simp only [List.head?_nil, Option.bind_none, Option.map_none, ite_self]
      exact .pure (.refl f)
  | cons m rest ih =>
      have later : ∀ n ∈ rest, ∀ t, pointsAt? schemas n = some t →
          ∀ p ∈ (look t).properties, Q p := by
        intro n hn
        refine mixin n ?_
        cases isFirst with
        | true => exact hn
        | false => exact List.mem_cons_of_mem m hn
      refine (readMember_takes nameOf look typewise current isFirst f (inline m (by simp))
        fun notFirst => mixin m (by simp [notFirst])).bind fun g hg => ?_
      refine (ih false g (fun n hn => inline n (List.mem_cons_of_mem m hn)) later).mono ?_
      intro h hh
      refine ⟨fun before => hh.1 (hg.1 before), ?_⟩
      rw [hh.2, hg.2]
      simp only [Bool.false_eq_true, if_false, Option.none_or, List.head?_cons, Option.bind_some]

theorem withRequired_takes (f : Flattening) : Takes Q none f f.withRequired := by
  refine ⟨fun before p hp => ?_, (Option.none_or ..).symm⟩
  obtain ⟨k, hk⟩ := Table.mem_values.mp hp
  rw [Flattening.withRequired_get?] at hk
  obtain ⟨q, hq, rfl⟩ := Option.map_eq_some_iff.mp hk
  have here := before q (Table.mem_values.mpr ⟨k, hq⟩)
  split
  · exact typewise q _ rfl rfl rfl here
  · exact here

theorem readAllOf_takes (current : String) {allOf : Value}
    (inline : ∀ m ∈ itemsOf allOf, ref? m = none → ∀ p node, DeclaresProperty m p.name node →
      Renders nameOf node p → Q p)
    (mixin : ∀ m ∈ (itemsOf allOf).tail, ∀ t, pointsAt? schemas m = some t →
      ∀ p ∈ (look t).properties, Q p) :
    Logged.Yields (Takes Q (((itemsOf allOf).head?.bind (pointsAt? schemas)).map
      fun t => (look t).name) Flattening.empty) (readAllOf schemas nameOf look current allOf) := by
  unfold readAllOf
  refine (Logged.Yields.attempt fun members h => h).bind fun members hi => ?_
  refine Logged.Yields.bind (R := Takes Q (((itemsOf allOf).head?.bind (pointsAt? schemas)).map
    fun t => (look t).name) Flattening.empty) ?_ fun f hf => .pure ?_
  · rcases iterate_cases hi with rfl | ⟨none, plain⟩
    · exact readMembers_takes nameOf look typewise current true Flattening.empty inline mixin
    · -- What has no fields neither points anywhere nor declares anything.
      have pointless : ∀ m ∈ members, pointsAt? schemas m = Option.none := by
        intro m hm
        have isNone : ref? m = Option.none := by
          cases m with
          | map entries => cases plain _ hm
          | _ => rfl
        rw [pointsAt?, isNone, Option.bind_none]
      have parent : members.head?.bind (pointsAt? schemas) = Option.none := by
        cases members with
        | nil => rfl
        | cons m rest => exact pointless m (by simp)
      rw [none, List.head?_nil, Option.bind_none, ← parent]
      refine readMembers_takes nameOf look typewise current true Flattening.empty
        (fun m hm _ p node declares _ => ?_) fun m hm t points => ?_
      · obtain ⟨declared, hd, member⟩ := declares
        rw [declaredProperties, field_of_not_map (plain m hm)] at hd
        cases hd
        cases member
      · cases (pointless m (List.mem_of_mem_tail hm)).symm.trans points
  · have last := withRequired_takes typewise f
    exact ⟨fun before => last.1 (hf.1 before), by rw [last.2, hf.2, Option.none_or]⟩

end Members

/-- The node under which a model finds a property: its schema declares it, or an inline member
of the composition does, or a mixin finds it there. -/
inductive Supplies (schemas : Table Value) : String → String → Value → Prop
  | own {key name node} (declares : DeclaresProperty (schemaAt schemas key) name node) :
      Supplies schemas key name node
  | inline {key name node m} (member : m ∈ composedMembers (schemaAt schemas key))
      (plain : ref? m = none) (declares : DeclaresProperty m name node) :
      Supplies schemas key name node
  | mixin {key t name node m} (later : m ∈ (composedMembers (schemaAt schemas key)).tail)
      (points : pointsAt? schemas m = some t) (rest : Supplies schemas t name node) :
      Supplies schemas key name node

/-- The key of the schema that another one extends, if its composition starts with one. -/
def parentKey? (schemas : Table Value) (key : String) : Option String :=
  (composedMembers (schemaAt schemas key)).head?.bind (pointsAt? schemas)

section Models

variable (schemas : Table Value) (nameOf : String → String)

def Supplied (key : String) (p : Property) : Prop :=
  ∃ node, Supplies schemas key p.name node ∧ Renders nameOf node p

/-- The names in a finished model are the given ones of the keys that its schema refers to. -/
structure Rendered (key : String) (m : Model) : Prop where
  properties : ∀ p ∈ m.properties, Supplied schemas nameOf key p
  parent : m.parent = (parentKey? schemas key).map nameOf
  union : classify (schemaAt schemas key) = .union → ∃ d,
    discriminator nameOf (schemaAt schemas key) = .ok d ∧
    m.discriminator = d.map Discriminator.propertyName ∧
    subTypes nameOf ((schemaAt schemas key).field "oneOf") d = .ok m.subTypes
  other : classify (schemaAt schemas key) ≠ .union → m.discriminator = none ∧ m.subTypes = []

variable {schemas nameOf} {look : String → Model} {key : String} {model : Model}

theorem supplied_typewise (key : String) : Typewise (Supplied schemas nameOf key) := by
  rintro p q name type discriminator ⟨node, supplies, renders⟩
  exact ⟨node, name ▸ supplies, type ▸ renders.type, discriminator ▸ renders.discriminator⟩

theorem composes_of_points {m : Value} {t : String}
    (hm : m ∈ composedMembers (schemaAt schemas key)) (points : pointsAt? schemas m = some t) :
    Composes schemas key t := by
  obtain ⟨ref, hr, hf⟩ := Option.bind_eq_some_iff.mp points
  obtain ⟨ht, known⟩ := Option.filter_eq_some_iff.mp hf
  refine ⟨of_decide_eq_true known, m, hm, ref, hr, ?_⟩
  unfold Except.toOption at ht
  split at ht
  · next target => exact Option.some.inj ht ▸ target
  · cases ht

theorem parentKey?_of_plain (plain : classify (schemaAt schemas key) ≠ .composed) :
    parentKey? schemas key = none := by
  rw [parentKey?, composedMembers, if_neg plain]
  rfl

theorem readClass_renders
    (parts : ∀ t, Composes schemas key t → (look t).name = nameOf t ∧
      ∀ p ∈ (look t).properties, Supplied schemas nameOf t p) (bare : Bare model)
    (isClass : classify (schemaAt schemas key) ≠ .union) :
    Logged.Yields (fun m => SameIdentity m model ∧ Rendered schemas nameOf key m)
      (readClass schemas nameOf look model (schemaAt schemas key)
        (classify (schemaAt schemas key))) := by
  have typewise : Typewise (Supplied schemas nameOf key) := supplied_typewise key
  have named : (parentKey? schemas key).map (fun t => (look t).name) =
      (parentKey? schemas key).map nameOf := by
    refine Option.map_congr fun t ht => (parts t ?_).1
    obtain ⟨m, hm, points⟩ := Option.bind_eq_some_iff.mp ht
    exact composes_of_points (List.mem_of_head? hm) points
  have last : ∀ f, Takes (Supplied schemas nameOf key) ((parentKey? schemas key).map nameOf)
      Flattening.empty f → Logged.Yields
        (fun m => SameIdentity m model ∧ Rendered schemas nameOf key m) (do
          let own ← ownProperties nameOf (schemaAt schemas key) model.key
          pure
            { model with
              shape := classify (schemaAt schemas key)
              isEnum := false
              properties := (override f.properties own).values
              parent := f.parent }) := by
    intro f hf
    refine (ownProperties_yields nameOf _ _).bind fun own declared => .pure ⟨⟨rfl, rfl, rfl, rfl⟩,
      ?_, hf.2.trans (Option.or_none ..), fun union => absurd union isClass, fun _ =>
        ⟨bare.discriminator, bare.subTypes⟩⟩
    refine Table.forall_values_foldl_put Property.name (fun _ p => p) (fun t p hp _ => ?_)
      (hf.1 fun p hp => ?_)
    · obtain ⟨node, declares, renders⟩ := declared p hp
      exact ⟨node, .own declares, renders⟩
    · cases hp
  unfold readClass
  by_cases composed : classify (schemaAt schemas key) = .composed
  · have members : composedMembers (schemaAt schemas key) =
        itemsOf ((schemaAt schemas key).field "allOf") := if_pos composed
    simp only [beq_iff_eq.mpr composed, if_true]
    refine Logged.Yields.bind ?_ last
    rw [← named, parentKey?, members]
    refine readAllOf_takes nameOf look typewise _ (fun m hm plain p node declares renders => ?_)
      fun m hm t points p hp => ?_
    · exact ⟨node, .inline (members ▸ hm) plain declares, renders⟩
    · have member := List.mem_of_mem_tail hm
      rw [← members] at hm member
      obtain ⟨node, supplies, renders⟩ := (parts t (composes_of_points member points)).2 p hp
      exact ⟨node, .mixin hm points supplies, renders⟩
  · simp only [beq_eq_false_iff_ne.mpr composed, Bool.false_eq_true, if_false]
    refine Logged.Yields.bind (.pure ?_) last
    rw [parentKey?_of_plain composed]
    exact .refl _

/-- A finished union: its sub-types and its discriminator bear the given names. -/
structure UnionOf (nameOf : String → String) (model : Model) (schema : Value) (m : Model) :
    Prop where
  identity : SameIdentity m model
  shape : m.shape = .union
  isEnum : m.isEnum = false
  enumValues : m.enumValues = model.enumValues
  properties : m.properties = []
  parent : m.parent = none
  names : ∃ d, discriminator nameOf schema = .ok d ∧
    m.discriminator = d.map Discriminator.propertyName ∧
    subTypes nameOf (schema.field "oneOf") d = .ok m.subTypes

theorem finishedUnion_yields (model : Model) (schema : Value) :
    Logged.Yields (UnionOf nameOf model schema) (finishedUnion nameOf model schema) := by
  have last : ∀ d, discriminator nameOf schema = .ok d →
      Logged.Yields (UnionOf nameOf model schema) (do
        let subs ← Logged.attempt (subTypes nameOf (schema.field "oneOf") d)
        pure
          { model with
            shape := .union
            isEnum := false
            properties := []
            parent := none
            discriminator := d.map Discriminator.propertyName
            subTypes := subs }) := fun d hd =>
    (Logged.Yields.attempt fun subs hs => hs).bind fun subs hs =>
      .pure ⟨⟨rfl, rfl, rfl, rfl⟩, rfl, rfl, rfl, rfl, rfl, d, hd, rfl, hs⟩
  unfold finishedUnion
  refine .next fun members => ?_
  simp only []
  split
  · refine .next fun _ => (Logged.Yields.attempt fun d hd => hd).bind fun d hd => ?_
    split
    · exact .next fun _ => last d hd
    · exact last d hd
  · refine (Logged.Yields.attempt fun d hd => hd).bind fun d hd => ?_
    split
    · exact .next fun _ => last d hd
    · exact last d hd

/-- A model that is read keeps its identity and bears the given names, if its parts do. -/
theorem readModel_renders
    (parts : ∀ t, Composes schemas key t → (look t).name = nameOf t ∧
      ∀ p ∈ (look t).properties, Supplied schemas nameOf t p) (bare : Bare model) :
    Logged.Yields (fun m => SameIdentity m model ∧ Rendered schemas nameOf key m)
      (readModel schemas nameOf look model (schemaAt schemas key)) := by
  have nothing : ∀ {ps : List Property}, ps = [] → ∀ p ∈ ps, Supplied schemas nameOf key p := by
    rintro _ rfl p hp
    cases hp
  have orphan : ∀ {shape}, classify (schemaAt schemas key) = shape → shape ≠ .composed →
      (parentKey? schemas key).map nameOf = none := by
    rintro _ rfl plain
    rw [parentKey?_of_plain plain, Option.map_none]
  cases hc : classify (schemaAt schemas key) with
  | enumeration =>
      simp only [readModel, hc]
      refine Logged.Yields.attempt fun m made => ?_
      obtain ⟨items, _, made⟩ := attempt_bind_ok made
      obtain ⟨values, _, made⟩ := attempt_bind_ok made
      cases made
      refine ⟨⟨rfl, rfl, rfl, rfl⟩, nothing bare.properties, ?_, fun union => ?_,
        fun _ => ⟨bare.discriminator, bare.subTypes⟩⟩
      · rw [orphan hc (by decide)]
        exact bare.parent
      · cases hc.symm.trans union
  | union =>
      simp only [readModel, hc]
      refine (finishedUnion_yields model _).mono fun m made => ⟨made.identity,
        nothing made.properties, ?_, fun _ => made.names, fun other => absurd hc other⟩
      rw [orphan hc (by decide)]
      exact made.parent
  | composed =>
      simp only [readModel, hc]
      exact hc ▸ readClass_renders parts bare (by rw [hc]; decide)
  | object =>
      simp only [readModel, hc]
      exact hc ▸ readClass_renders parts bare (by rw [hc]; decide)

end Models

section Finished

variable {registry : Registry}

/-- What is built keeps the identity of its skeleton, and its names are those in the records
that population started from. -/
theorem Built.rendered (bare : ∀ k m, registry.records.get? k = some m → Bare m) {p : Product}
    (built : Built registry.schemas registry.nameOf registry.records p) :
    ∃ skeleton, registry.records.get? p.key = some skeleton ∧ SameIdentity p.model skeleton ∧
      Rendered registry.schemas registry.nameOf p.key p.model := by
  induction built with
  | @intro p skeleton notes part declared keys parts made noted ih =>
      refine ⟨skeleton, declared, ?_⟩
      refine readModel_renders (fun t edge => ?_) (bare _ _ declared) [] p.model notes made
      obtain ⟨skeleton', declared', identity, rendered⟩ := ih t edge
      rw [keys t edge] at declared' rendered
      refine ⟨?_, rendered.properties⟩
      rw [Registry.nameOf, Registry.nameIn, declared']
      exact identity.name

variable (bare : ∀ k m, registry.records.get? k = some m → Bare m)

include bare

/-- In whatever state, a record has the identity that it started with. -/
theorem Reached.identity {w : Workshop} (reached : Reached registry w) {k : String} {m : Model}
    (stored : w.records.get? k = some m) :
    ∃ skeleton, registry.records.get? k = some skeleton ∧ SameIdentity m skeleton := by
  by_cases hk : k ∈ w.finished
  · obtain ⟨p, built, rfl, stored'⟩ := reached.product hk
    cases stored.symm.trans stored'
    obtain ⟨skeleton, declared, identity, _⟩ := built.rendered bare
    exact ⟨skeleton, declared, identity⟩
  · rw [reached.record_of_waiting hk] at stored
    exact ⟨m, stored, rfl, rfl, rfl, rfl⟩

/-- In whatever state, a key has the name that it started with. -/
theorem Reached.nameIn (initial : Initial registry.schemas registry.records) {w : Workshop}
    (reached : Reached registry w) :
    Registry.nameIn w.records = registry.nameOf := by
  funext k
  rw [Registry.nameOf, Registry.nameIn, Registry.nameIn]
  cases stored : w.records.get? k with
  | none =>
      have unknown : registry.records.get? k = none := by
        rw [Table.get?_eq_none_iff, initial.names, ← reached.names initial.names]
        exact (Table.get?_eq_none_iff _ _).mp stored
      rw [unknown]
  | some m =>
      obtain ⟨skeleton, declared, identity⟩ := reached.identity bare stored
      rw [declared]
      exact identity.name

omit bare in
/-- After a run that succeeds every record is that of a product. -/
theorem populateEach_products (initial : Initial registry.schemas registry.records)
    {j : Journal} {w : Workshop}
    (run : (populateEach registry.schemas registry.nameOf registry.keys).run
      ⟨registry.records, [], j⟩ = (.ok (), w)) :
    Reached registry w ∧ ∀ key m, w.records.get? key = some m →
      ∃ p, Built registry.schemas registry.nameOf registry.records p ∧ p.key = key ∧
        p.model = m := by
  have ends := populateEach_ends registry.nameOf initial j
  unfold Build.Ends at ends
  rw [show (populateEach registry.schemas registry.nameOf registry.records.names).run
    ⟨registry.records, [], j⟩ = (.ok (), w) from run] at ends
  obtain ⟨_, ps, history⟩ := ends
  have reached : Reached registry w := (Sound.initial j).moves history.moves
  refine ⟨reached, fun key m stored => ?_⟩
  have finished : key ∈ w.finished := by
    rw [history.moves.finished, List.nil_append, history.complete.mem_iff,
      ← reached.names initial.names]
    exact Table.mem_names.mpr ⟨m, stored⟩
  obtain ⟨p, built, rfl, stored'⟩ := reached.product finished
  cases stored.symm.trans stored'
  exact ⟨p, built, rfl, rfl⟩

/-- A run that succeeds leaves finished models under their keys. -/
theorem populateEach_rendered (initial : Initial registry.schemas registry.records)
    {j : Journal} {w : Workshop}
    (run : (populateEach registry.schemas registry.nameOf registry.keys).run
      ⟨registry.records, [], j⟩ = (.ok (), w)) :
    Reached registry w ∧ w.records.Keyed Model.key ∧ ∀ key m, w.records.get? key = some m →
      Rendered registry.schemas registry.nameOf key m := by
  obtain ⟨reached, products⟩ := populateEach_products initial run
  refine ⟨reached, Table.keyed_iff.mpr fun key m stored => ?_, fun key m stored => ?_⟩
  · obtain ⟨skeleton, declared, identity⟩ := reached.identity bare stored
    exact identity.key.trans (Table.keyed_iff.mp initial.keyed key skeleton declared)
  · obtain ⟨p, built, rfl, rfl⟩ := products key m stored
    obtain ⟨_, _, _, rendered⟩ := built.rendered bare
    exact rendered

end Finished

end Population
end SdkBlueprint
