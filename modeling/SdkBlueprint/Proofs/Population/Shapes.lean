import SdkBlueprint.Proofs.Population.References

/-! Shapes of finished records. A builder sets the fields of its own shape in the record that is
there and leaves the others alone. Since these are at their defaults, before the first build and
after every one, a finished record has the fields that its schema calls for and no others. -/
namespace SdkBlueprint

namespace ValidatorKind

theorem ofLabel?_label (kind : ValidatorKind) : ofLabel? kind.label = some kind := by
  cases kind <;> decide

theorem label_injective {k l : ValidatorKind} (h : k.label = l.label) : k = l := by
  have same : ofLabel? k.label = ofLabel? l.label := congrArg ofLabel? h
  rw [ofLabel?_label, ofLabel?_label] at same
  exact Option.some.inj same

end ValidatorKind

namespace Validator

theorem distinct_of_kinds {vs : List Validator} (h : (vs.map Validator.kind).Nodup) :
    Distinct vs := by
  apply (List.pairwise_map.mp h).imp
  intro v w other same
  exact other (ValidatorKind.label_injective (congrArg Prod.fst same))

theorem ofParam_kind {kind : ValidatorKind} {param : Document.Value} {v : Validator}
    (h : ofParam kind param = .ok v) : v.kind = kind := by
  unfold ofParam at h
  split at h
  · cases h
    rfl
  · cases h

theorem Distinct.snoc {vs : List Validator} (h : Distinct vs) {v : Validator}
    (fresh : ∀ w ∈ vs, w.kind ≠ v.kind) : Distinct (vs ++ [v]) := by
  refine List.pairwise_append.mpr ⟨h, by simp, ?_⟩
  intro w hw u hu same
  rw [List.mem_singleton.mp hu] at same
  exact fresh w hw (ValidatorKind.label_injective (congrArg Prod.fst same))

end Validator

namespace Schema
open SdkBlueprint.Document

theorem optionalFacet_kinds {kind : ValidatorKind} {param : Value} {vs : List Validator}
    (h : (Validator.ofParam kind param).map (fun v => [v]) = .ok vs) :
    (vs.map Validator.kind).Sublist [kind] := by
  obtain ⟨v, made, rfl⟩ := attempt_map_ok h
  rw [List.map_singleton, Validator.ofParam_kind made]

theorem bound_kinds {schema : Value} {name : String} {kind : ValidatorKind} {vs : List Validator}
    (h : bound schema name kind = .ok vs) : (vs.map Validator.kind).Sublist [kind] := by
  unfold bound at h
  simp only [] at h
  split at h
  · cases h
    exact List.nil_sublist _
  · exact optionalFacet_kinds h

theorem patternFacet_kinds {schema : Value} {vs : List Validator}
    (h : patternFacet schema = .ok vs) : (vs.map Validator.kind).Sublist [.pattern] := by
  unfold patternFacet at h
  simp only [] at h
  split at h
  · exact optionalFacet_kinds h
  · cases h
    exact List.nil_sublist _

/-- The kinds of validators that a format stands for. -/
def formatKinds : List ValidatorKind := [.email, .uuid, .date, .url]

theorem formatKind?_mem {format : String} {kind : ValidatorKind}
    (h : formatKind? format = some kind) : kind ∈ formatKinds := by
  unfold formatKind? at h
  split at h <;> cases h <;> decide

theorem formatFacet_kinds {schema : Value} {vs : List Validator}
    (h : formatFacet schema = .ok vs) : (vs.map Validator.kind).Sublist formatKinds := by
  unfold formatFacet at h
  split at h
  · next format _ =>
    cases h
    cases hk : formatKind? format with
    | none => exact List.nil_sublist _
    | some kind => exact List.singleton_sublist.mpr (formatKind?_mem hk)
  · cases h
    exact List.nil_sublist _
  · cases h

theorem nullableFacet_kinds (schema : Value) :
    ((nullableFacet schema).map Validator.kind).Sublist [.notEmpty] := by
  unfold nullableFacet
  split
  · exact List.Sublist.refl _
  · exact List.nil_sublist _

/-- The facts of a schema are of different kinds, each from its own part of the schema. -/
theorem validators_distinct {schema : Value} {vs : List Validator}
    (h : validators schema = .ok vs) : Validator.Distinct vs := by
  unfold validators at h
  split at h
  · cases h
    exact .nil
  · obtain ⟨minLength, h₁, h⟩ := attempt_bind_ok h
    obtain ⟨maxLength, h₂, h⟩ := attempt_bind_ok h
    obtain ⟨pattern, h₃, h⟩ := attempt_bind_ok h
    obtain ⟨minimum, h₄, h⟩ := attempt_bind_ok h
    obtain ⟨maximum, h₅, h⟩ := attempt_bind_ok h
    obtain ⟨format, h₆, h⟩ := attempt_bind_ok h
    cases h
    have kinds := (((((bound_kinds h₁).append (bound_kinds h₂)).append
      (patternFacet_kinds h₃)).append (bound_kinds h₄)).append (bound_kinds h₅)).append
      (formatFacet_kinds h₆) |>.append (nullableFacet_kinds schema)
    simp only [← List.map_append] at kinds
    exact Validator.distinct_of_kinds (kinds.nodup (by decide))

end Schema

namespace Population
open SdkBlueprint.Document SdkBlueprint.Schema

section Properties

variable (nameOf : String → String)

theorem property_distinct (name schema : Value) (required : Bool) (owner : String) :
    Logged.Yields (fun p => Validator.Distinct p.validators)
      (property nameOf name schema required owner) := by
  unfold property
  refine .next fun disc => .next fun type => ?_
  refine (Logged.Yields.attempt fun facts => validators_distinct).bind fun facts distinct => ?_
  simp only []
  split
  · exact .pure distinct
  · intro j p k run
    cases run

theorem ownProperties_distinct (schema : Value) (owner : String) :
    Logged.Yields (fun ps => ∀ p ∈ ps, Validator.Distinct p.validators)
      (ownProperties nameOf schema owner) := by
  unfold ownProperties
  refine .next fun declared => ?_
  exact (Logged.Yields.mapM (T := fun _ p => Validator.Distinct p.validators)
    fun e _ => property_distinct nameOf _ _ _ _).mono fun ps => forall₂_right

theorem demanded_distinct {p : Property} (h : Validator.Distinct p.validators) :
    Validator.Distinct (demanded p).validators := by
  unfold demanded
  simp only []
  split
  · exact h
  · next absent =>
    apply h.snoc
    intro w hw same
    apply absent
    refine List.any_eq_true.mpr ⟨w, hw, ?_⟩
    rw [same]
    rfl

/-- Properties under their names, none of which repeats a validator. -/
structure Tidy (t : Table Property) : Prop where
  keyed : t.Keyed Property.name
  distinct : ∀ p ∈ t.values, Validator.Distinct p.validators

namespace Tidy

variable {t : Table Property}

theorem empty : Tidy Table.empty := ⟨Table.keyed_empty _, by rintro p ⟨⟩⟩

theorem names (h : Tidy t) : (t.values.map Property.name).Nodup :=
  h.keyed.names.symm ▸ t.names_nodup

theorem put (h : Tidy t) {p : Property} (hp : Validator.Distinct p.validators) :
    Tidy (t.put p.name p) := by
  refine ⟨h.keyed.put rfl, ?_⟩
  intro q hq
  rcases Table.mem_values_put hq with rfl | hq
  · exact hp
  · exact h.distinct q hq

theorem overlay (h : Tidy t) (p : Property) : Tidy (Population.overlay t p) :=
  h.put (p := inherit (t.get? p.name) p) (Validator.merge_distinct _)

theorem overlays (h : Tidy t) (ps : List Property) : Tidy (ps.foldl Population.overlay t) := by
  induction ps generalizing t with
  | nil => exact h
  | cons p ps ih => exact ih (h.overlay p)

theorem override (h : Tidy t) {own : List Property}
    (distinct : ∀ p ∈ own, Validator.Distinct p.validators) :
    Tidy (Population.override t own) := by
  unfold Population.override
  induction own generalizing t with
  | nil => exact h
  | cons p own ih =>
      apply ih (h.put (distinct p (by simp)))
      intro q hq
      exact distinct q (List.mem_cons_of_mem p hq)

theorem withRequired {f : Flattening} (h : Tidy f.properties) :
    Tidy f.withRequired.properties := by
  refine ⟨Flattening.withRequired_keyed h.keyed, ?_⟩
  intro p hp
  obtain ⟨k, hk⟩ := Table.mem_values.mp hp
  rw [Flattening.withRequired_get?] at hk
  obtain ⟨q, hq, rfl⟩ := Option.map_eq_some_iff.mp hk
  have here := h.distinct q (Table.mem_values.mpr ⟨k, hq⟩)
  split
  · exact demanded_distinct here
  · exact here

end Tidy

theorem addProperties_tidy (current source : String) {f : Flattening} (h : Tidy f.properties)
    (ps : List Property) :
    Logged.Yields (fun g => Tidy g.properties) (f.addProperties current source ps) := by
  intro j g k run
  rw [Flattening.addProperties_yields current source f ps j g k run]
  exact h.overlays ps

theorem addInline_tidy (current : String) {f : Flattening} (h : Tidy f.properties)
    (member : Value) :
    Logged.Yields (fun g => Tidy g.properties) (f.addInline nameOf current member) := by
  unfold Flattening.addInline
  refine .next fun ps => (addProperties_tidy current _ h ps).bind fun g tidy => ?_
  refine Logged.Yields.attempt fun g' required => ?_
  obtain ⟨names, rfl⟩ := require_eq required
  exact tidy

end Properties

/-- What only the builder of one shape sets is at its default under the other shapes. -/
structure Fits (schema : Value) (m : Model) : Prop where
  enumValues : classify schema ≠ .enumeration → m.enumValues = none
  properties : classify schema = .enumeration ∨ classify schema = .union → m.properties = []
  parent : classify schema ≠ .composed → m.parent = none
  union : classify schema ≠ .union → m.discriminator = none ∧ m.subTypes = []

/-- A record with the fields that its schema calls for and no others. -/
structure Shaped (schema : Value) (m : Model) : Prop where
  shape : m.shape = classify schema
  isEnum : m.isEnum = true ↔ m.shape = .enumeration
  enumValues : m.shape = .enumeration ↔ m.enumValues ≠ none
  properties : m.properties ≠ [] → m.shape = .composed ∨ m.shape = .object
  parent : m.parent ≠ none → m.shape = .composed
  union : m.discriminator ≠ none ∨ m.subTypes ≠ [] → m.shape = .union
  names : (m.properties.map Property.name).Nodup
  validators : ∀ p ∈ m.properties, Validator.Distinct p.validators

theorem fits_skeletonOf (key : String) (schema schema' : Value) :
    Fits schema' (Registry.skeletonOf key schema) :=
  ⟨fun _ => rfl, fun _ => rfl, fun _ => rfl, fun _ => ⟨rfl, rfl⟩⟩

theorem Shaped.fits {schema : Value} {m : Model} (h : Shaped schema m) : Fits schema m := by
  constructor
  case enumValues =>
    intro other
    by_contra set
    exact other (h.shape.symm.trans (h.enumValues.mpr set))
  case properties =>
    intro other
    by_contra set
    have shape := h.properties set
    rw [h.shape] at shape
    rcases other with other | other <;> rw [other] at shape <;> simp at shape
  case parent =>
    intro other
    by_contra set
    exact other (h.shape.symm.trans (h.parent set))
  case union =>
    intro other
    constructor
    · by_contra set
      exact other (h.shape.symm.trans (h.union (.inl set)))
    · by_contra set
      exact other (h.shape.symm.trans (h.union (.inr set)))

section Builders

variable {schema : Value} {model : Model}

theorem finishedEnumeration_shaped (enumerated : classify schema = .enumeration)
    (fits : Fits schema model) {m : Model} (made : finishedEnumeration model schema = .ok m) :
    SameIdentity m model ∧ Shaped schema m := by
  obtain ⟨items, _, made⟩ := attempt_bind_ok made
  obtain ⟨values, _, made⟩ := attempt_bind_ok made
  cases made
  have properties := fits.properties (.inl enumerated)
  have parent := fits.parent (by rw [enumerated]; decide)
  obtain ⟨discriminator, subTypes⟩ := fits.union (by rw [enumerated]; decide)
  refine ⟨⟨rfl, rfl, rfl, rfl⟩, ?_⟩
  constructor <;> simp [enumerated, properties, parent, discriminator, subTypes]

theorem finishedUnion_shaped (nameOf : String → String) (union : classify schema = .union)
    (fits : Fits schema model) :
    Logged.Yields (fun m => SameIdentity m model ∧ Shaped schema m)
      (finishedUnion nameOf model schema) := by
  refine (finishedUnion_yields model schema).mono fun m made => ⟨made.identity, ?_⟩
  have values : m.enumValues = none :=
    made.enumValues.trans (fits.enumValues (by rw [union]; decide))
  constructor <;> simp [union, made.shape, made.isEnum, made.properties, made.parent, values]

/-- A class bears the properties that were gathered, and a parent only if it is composed. -/
theorem class_shaped (fits : Fits schema model) {shape : Shape} (hc : classify schema = shape)
    (isClass : shape = .composed ∨ shape = .object) {properties : Table Property}
    (tidy : Tidy properties) {parent : Option String}
    (extended : parent ≠ none → shape = .composed) :
    Shaped schema
      { model with
        shape := shape
        isEnum := false
        properties := properties.values
        parent := parent } := by
  have notEnum : shape ≠ .enumeration := by rcases isClass with rfl | rfl <;> decide
  have notUnion : shape ≠ .union := by rcases isClass with rfl | rfl <;> decide
  have values := fits.enumValues (hc ▸ notEnum)
  obtain ⟨discriminator, subTypes⟩ := fits.union (hc ▸ notUnion)
  refine ⟨hc.symm, ?_, ?_, fun _ => isClass, extended, ?_, tidy.names, tidy.distinct⟩
  · simp [notEnum]
  · simp [notEnum, values]
  · simp [discriminator, subTypes]

end Builders

namespace Build

variable {α β : Type} {I : Table Model → List String → Prop} {R : α → Prop} {S : β → Prop}

/-- The step keeps what holds of the records and the finished keys, also when it fails, and
what it comes to is of the given sort. -/
def Keeps (I : Table Model → List String → Prop) (R : α → Prop) (x : Build α) : Prop :=
  ∀ w, I w.records w.finished → Ends x w fun r w' =>
    I w'.records w'.finished ∧ ∀ a, r = .ok a → R a

namespace Keeps

theorem pure {a : α} (h : R a) : Keeps I R (Pure.pure a) := by
  intro w hw
  refine ends_pure ⟨hw, ?_⟩
  rintro _ ⟨⟩
  exact h

theorem throw (e : Failure) : Keeps I R (MonadExcept.throw e) := by
  intro w hw
  refine ends_throw ⟨hw, ?_⟩
  rintro _ ⟨⟩

theorem attempt {x : Attempt α} (h : ∀ a, x = .ok a → R a) : Keeps I R (Build.attempt x) :=
  fun _ hw => ends_attempt ⟨hw, h⟩

theorem logged {P : Entry → Prop} {step : Logged α} (adds : Logged.Adds P step)
    (h : Logged.Yields R step) : Keeps I R (Build.logged step) :=
  fun _ hw => ends_logged adds ⟨hw, fun a ha => h [] a step.entries (Prod.ext ha rfl)⟩

theorem bind {x : Build α} {f : α → Build β} (hx : Keeps I R x)
    (hf : ∀ a, R a → Keeps I S (f a)) : Keeps I S (x >>= f) := by
  intro w hw
  apply (hx w hw).bind
  · intro a w' kept
    exact hf a (kept.2 a rfl) w' kept.1
  · intro e w' kept
    refine ⟨kept.1, ?_⟩
    rintro _ ⟨⟩

theorem record? {key : String} {R : Option Model → Prop}
    (h : ∀ records finished, I records finished → R (records.get? key)) :
    Keeps I R (Build.record? key) := by
  intro w hw
  refine ⟨hw, ?_⟩
  rintro _ ⟨⟩
  exact h w.records w.finished hw

theorem isFinished (key : String) : Keeps I (fun _ => True) (Build.isFinished key) :=
  fun _ hw => ⟨hw, fun _ _ => trivial⟩

theorem finish {key : String} {m : Model}
    (h : ∀ records finished, I records finished → I (records.put key m) (finished ++ [key])) :
    Keeps I (fun _ => True) (Build.finish key m) :=
  fun w hw => ⟨h w.records w.finished hw, fun _ _ => trivial⟩

theorem forM {f : α → Build Unit} (h : ∀ a, Keeps I (fun _ => True) (f a)) (as : List α) :
    Keeps I (fun _ => True) (as.forM f) := by
  induction as with
  | nil => exact .pure trivial
  | cons a as ih => exact (h a).bind fun _ _ => ih

end Keeps
end Build

section Steps

variable {schemas : Table Value} (nameOf : String → String)
variable {I : Table Model → List String → Prop} {chain : List String}
variable {ensure : Ensure schemas chain}

theorem addReference_keeps (ensured : ∀ t ht hc, Build.Keeps I (fun _ => True) (ensure t ht hc))
    (current : String) (isFirst : Bool) {f : Flattening} (h : Tidy f.properties) (ref : Value) :
    Build.Keeps I (fun g => Tidy g.properties)
      (addReference schemas current chain ensure isFirst f ref) := by
  unfold addReference
  refine (Build.Keeps.attempt (R := fun _ => True) fun _ _ => trivial).bind fun target _ => ?_
  split
  · exact .throw _
  · split
    · refine (ensured _ _ _).bind fun _ _ => ?_
      refine (Build.Keeps.record? (R := fun _ => True) fun _ _ _ => trivial).bind fun found _ => ?_
      cases found with
      | none => exact .pure h
      | some model =>
          cases isFirst with
          | true => exact .pure h
          | false =>
              exact .logged (Flattening.addProperties_adds _ _ _ _)
                (addProperties_tidy current model.name
                  (f := { f with mixins := f.mixins ++ [model.name] }) h model.properties)
    · exact (Build.Keeps.logged (P := ofModels) (R := fun _ => True) (.note (.inr rfl))
        fun _ _ _ _ => trivial).bind fun _ _ => .pure h

theorem addMember_keeps (ensured : ∀ t ht hc, Build.Keeps I (fun _ => True) (ensure t ht hc))
    (current : String) (isFirst : Bool) {f : Flattening} (h : Tidy f.properties)
    (member : Value) :
    Build.Keeps I (fun g => Tidy g.properties)
      (addMember schemas nameOf current chain ensure isFirst f member) := by
  unfold addMember
  split
  · exact addReference_keeps ensured current isFirst h _
  · split
    · exact .logged (Flattening.addInline_adds nameOf _ _ _) (addInline_tidy nameOf current h member)
    · exact .pure h

theorem addMembers_keeps (ensured : ∀ t ht hc, Build.Keeps I (fun _ => True) (ensure t ht hc))
    (current : String) (isFirst : Bool) {f : Flattening} (h : Tidy f.properties)
    (members : List Value) :
    Build.Keeps I (fun g => Tidy g.properties)
      (addMembers schemas nameOf current chain ensure isFirst f members) := by
  induction members generalizing isFirst f with
  | nil => exact .pure h
  | cons member rest ih =>
      apply (addMember_keeps nameOf ensured current isFirst h member).bind
      intro g tidy
      exact ih false tidy

theorem flatten_keeps (ensured : ∀ t ht hc, Build.Keeps I (fun _ => True) (ensure t ht hc))
    (current : String) (allOf : Value) :
    Build.Keeps I (fun g => Tidy g.properties)
      (flatten schemas nameOf current chain ensure allOf) := by
  unfold flatten
  refine (Build.Keeps.attempt (R := fun _ => True) fun _ _ => trivial).bind ?_
  intro members _
  apply (addMembers_keeps nameOf ensured current true .empty members).bind
  intro f tidy
  exact .pure tidy.withRequired

theorem finishedClass_keeps (ensured : ∀ t ht hc, Build.Keeps I (fun _ => True) (ensure t ht hc))
    {model : Model} {schema : Value} (fits : Fits schema model) {shape : Shape}
    (hc : classify schema = shape) (isClass : shape = .composed ∨ shape = .object) :
    Build.Keeps I (fun m => SameIdentity m model ∧ Shaped schema m)
      (finishedClass schemas nameOf model schema shape chain ensure) := by
  have last : ∀ f : Flattening, Tidy f.properties ∧ (f.parent ≠ none → shape = .composed) →
      Build.Keeps I (fun m => SameIdentity m model ∧ Shaped schema m) (do
        let own ← Build.logged (ownProperties nameOf schema model.key)
        pure
          { model with
            shape := shape
            isEnum := false
            properties := (override f.properties own).values
            parent := f.parent }) := by
    intro f gathered
    apply (Build.Keeps.logged (ownProperties_adds nameOf _ _)
      (ownProperties_distinct nameOf _ _)).bind
    intro own distinct
    exact .pure ⟨⟨rfl, rfl, rfl, rfl⟩,
      class_shaped fits hc isClass (gathered.1.override distinct) gathered.2⟩
  unfold finishedClass
  by_cases composed : shape = .composed
  · simp only [beq_iff_eq.mpr composed, if_true]
    apply (flatten_keeps nameOf ensured _ _).bind
    intro f tidy
    exact last f ⟨tidy, fun _ => composed⟩
  · simp only [beq_eq_false_iff_ne.mpr composed, Bool.false_eq_true, if_false]
    refine (Build.Keeps.pure (R := (· = Flattening.empty)) rfl).bind ?_
    intro f hf
    subst hf
    exact last Flattening.empty ⟨.empty, fun set => absurd rfl set⟩

/-- A builder that is given a fitting record makes one of its shape. -/
theorem finishedModel_keeps (ensured : ∀ t ht hc, Build.Keeps I (fun _ => True) (ensure t ht hc))
    {model : Model} {schema : Value} (fits : Fits schema model) :
    Build.Keeps I (fun m => SameIdentity m model ∧ Shaped schema m)
      (finishedModel schemas nameOf model schema chain ensure) := by
  cases hc : classify schema with
  | enumeration =>
      simp only [finishedModel, hc]
      exact .attempt fun m made => finishedEnumeration_shaped hc fits made
  | union =>
      simp only [finishedModel, hc]
      exact .logged (finishedUnion_adds nameOf _ _) (finishedUnion_shaped nameOf hc fits)
  | composed =>
      simp only [finishedModel, hc]
      exact finishedClass_keeps nameOf ensured fits hc (.inl rfl)
  | object =>
      simp only [finishedModel, hc]
      exact finishedClass_keeps nameOf ensured fits hc (.inr rfl)

end Steps

namespace SameIdentity

theorem refl (m : Model) : SameIdentity m m := ⟨rfl, rfl, rfl, rfl⟩

theorem symm {m m' : Model} (h : SameIdentity m m') : SameIdentity m' m :=
  ⟨h.key.symm, h.name.symm, h.fileName.symm, h.description.symm⟩

theorem trans {m m' m'' : Model} (h : SameIdentity m m') (h' : SameIdentity m' m'') :
    SameIdentity m m'' :=
  ⟨h.key.trans h'.key, h.name.trans h'.name, h.fileName.trans h'.fileName,
    h.description.trans h'.description⟩

end SameIdentity

/-- Every record fits the schema of its key. -/
def Fitting (schemas : Table Value) (records : Table Model) : Prop :=
  ∀ key m, records.get? key = some m → Fits (schemaAt schemas key) m

/-- Tables whose records fit the schemas and bear the same identities, key by key. -/
structure Alike (schemas : Table Value) (s t : Table Model) : Prop where
  names : s.names = t.names
  left : Fitting schemas s
  right : Fitting schemas t
  identity : ∀ key m m', s.get? key = some m → t.get? key = some m' → SameIdentity m m'

namespace Alike

variable {schemas : Table Value} {s t u : Table Model}

theorem refl (fitting : Fitting schemas s) : Alike schemas s s := by
  refine ⟨rfl, fitting, fitting, ?_⟩
  intro key m m' stored stored'
  cases stored.symm.trans stored'
  exact .refl m

theorem symm (h : Alike schemas s t) : Alike schemas t s := by
  refine ⟨h.names.symm, h.right, h.left, ?_⟩
  intro key m m' stored stored'
  exact (h.identity key m' m stored' stored).symm

theorem partner (h : Alike schemas s t) {key : String} {m : Model} (stored : s.get? key = some m) :
    ∃ m', t.get? key = some m' ∧ SameIdentity m m' := by
  obtain ⟨m', stored'⟩ := Table.mem_names.mp (h.names ▸ Table.mem_names.mpr ⟨m, stored⟩)
  exact ⟨m', stored', h.identity key m m' stored stored'⟩

theorem trans (h : Alike schemas s t) (h' : Alike schemas t u) : Alike schemas s u := by
  refine ⟨h.names.trans h'.names, h.left, h'.right, ?_⟩
  intro key m m'' stored stored''
  obtain ⟨m', stored', same⟩ := h.partner stored
  exact same.trans (h'.identity key m' m'' stored' stored'')

theorem nameIn (h : Alike schemas s t) : Registry.nameIn s = Registry.nameIn t := by
  funext key
  rw [Registry.nameIn, Registry.nameIn]
  cases stored : s.get? key with
  | some m =>
      obtain ⟨m', stored', same⟩ := h.partner stored
      rw [stored']
      exact same.name
  | none =>
      rw [Table.get?_eq_none_iff, h.names, ← Table.get?_eq_none_iff] at stored
      rw [stored]

theorem put (h : Alike schemas s t) {key : String} {model m : Model}
    (known : s.get? key = some model) (identity : SameIdentity model m)
    (fits : Fits (schemaAt schemas key) m) : Alike schemas s (t.put key m) := by
  have registered : key ∈ t.names := h.names ▸ Table.mem_names.mpr ⟨model, known⟩
  refine ⟨by rw [Table.names_put, if_pos registered, h.names], h.left, ?_, ?_⟩
  · intro k n stored
    rw [Table.get?_put] at stored
    split at stored
    · next same => exact same ▸ Option.some.inj stored ▸ fits
    · exact h.right k n stored
  · intro k n n' stored stored'
    rw [Table.get?_put] at stored'
    split at stored'
    · next same =>
      cases Option.some.inj ((same ▸ known).symm.trans stored)
      exact Option.some.inj stored' ▸ identity
    · exact h.identity k n n' stored stored'

end Alike

section Rebuilding

variable {schemas : Table Value} {nameOf : String → String}

/-- What is read has the shape of its schema. -/
theorem readModel_shape (look : String → Model) (model : Model) (schema : Value) :
    Logged.Yields (fun m => m.shape = classify schema)
      (readModel schemas nameOf look model schema) := by
  have ofClass : Logged.Yields (fun m => m.shape = classify schema)
      (readClass schemas nameOf look model schema (classify schema)) := by
    unfold readClass
    simp only []
    split
    · exact .next fun f => .next fun own => .pure rfl
    · exact .next fun f => .next fun own => .pure rfl
  cases hc : classify schema with
  | enumeration =>
      simp only [readModel, hc]
      apply Logged.Yields.attempt
      intro m made
      obtain ⟨items, _, made⟩ := attempt_bind_ok made
      obtain ⟨values, _, made⟩ := attempt_bind_ok made
      cases made
      rfl
  | union =>
      simp only [readModel, hc]
      exact (finishedUnion_yields model schema).mono fun m made => made.shape
  | composed =>
      simp only [readModel, hc] at ofClass ⊢
      exact ofClass
  | object =>
      simp only [readModel, hc] at ofClass ⊢
      exact ofClass

namespace Fits

variable {schema : Value} {model model' : Model}

/-- Like records of an enumeration differ in no more than what its builder sets. -/
theorem enumeration_eq (fits : Fits schema model) (fits' : Fits schema model')
    (same : SameIdentity model model') (hc : classify schema = .enumeration) :
    model' =
      { model with
        shape := model'.shape
        isEnum := model'.isEnum
        enumValues := model'.enumValues } := by
  have plain : classify schema ≠ .composed ∧ classify schema ≠ .union := by
    rw [hc]
    decide
  have properties := (fits'.properties (.inl hc)).trans (fits.properties (.inl hc)).symm
  have parent := (fits'.parent plain.1).trans (fits.parent plain.1).symm
  have discriminator := (fits'.union plain.2).1.trans (fits.union plain.2).1.symm
  have subTypes := (fits'.union plain.2).2.trans (fits.union plain.2).2.symm
  rw [same.key, same.name, same.fileName, same.description, ← properties, ← parent,
    ← discriminator, ← subTypes]

/-- Like records of a union differ in no more than what its builder sets. -/
theorem union_eq (fits : Fits schema model) (fits' : Fits schema model')
    (same : SameIdentity model model') (hc : classify schema = .union) :
    model' =
      { model with
        shape := model'.shape
        isEnum := model'.isEnum
        properties := model'.properties
        parent := model'.parent
        discriminator := model'.discriminator
        subTypes := model'.subTypes } := by
  have plain : classify schema ≠ .enumeration := by
    rw [hc]
    decide
  have values := (fits'.enumValues plain).trans (fits.enumValues plain).symm
  rw [same.key, same.name, same.fileName, same.description, ← values]

/-- Like records of a class differ in no more than what its builder sets. -/
theorem class_eq (fits : Fits schema model) (fits' : Fits schema model')
    (same : SameIdentity model model')
    (isClass : classify schema = .composed ∨ classify schema = .object) :
    model' =
      { model with
        shape := model'.shape
        isEnum := model'.isEnum
        properties := model'.properties
        parent := model'.parent } := by
  have plain : classify schema ≠ .enumeration ∧ classify schema ≠ .union := by
    rcases isClass with hc | hc <;> rw [hc] <;> decide
  have values := (fits'.enumValues plain.1).trans (fits.enumValues plain.1).symm
  have discriminator := (fits'.union plain.2).1.trans (fits.union plain.2).1.symm
  have subTypes := (fits'.union plain.2).2.trans (fits.union plain.2).2.symm
  rw [same.key, same.name, same.fileName, same.description, ← values, ← discriminator,
    ← subTypes]

end Fits

/-- Of a fitting record nothing but its identity is read. -/
theorem readModel_alike (look : String → Model) {model model' : Model} {schema : Value}
    (fits : Fits schema model) (fits' : Fits schema model') (same : SameIdentity model model') :
    readModel schemas nameOf look model schema = readModel schemas nameOf look model' schema := by
  cases hc : classify schema with
  | enumeration =>
      rw [fits.enumeration_eq fits' same hc]
      simp only [readModel, hc, finishedEnumeration]
  | union =>
      rw [fits.union_eq fits' same hc]
      simp only [readModel, hc, finishedUnion]
  | composed =>
      rw [fits.class_eq fits' same (.inl hc)]
      simp only [readModel, hc, readClass]
  | object =>
      rw [fits.class_eq fits' same (.inr hc)]
      simp only [readModel, hc, readClass]

/-- A builder does the same with every record that fits, but for the identity that it bears. -/
theorem finishedModel_alike {chain : List String} (ensure : Ensure schemas chain)
    {model model' : Model} {schema : Value} (fits : Fits schema model) (fits' : Fits schema model')
    (same : SameIdentity model model') :
    finishedModel schemas nameOf model schema chain ensure =
      finishedModel schemas nameOf model' schema chain ensure := by
  cases hc : classify schema with
  | enumeration =>
      rw [fits.enumeration_eq fits' same hc]
      simp only [finishedModel, hc, finishedEnumeration]
  | union =>
      rw [fits.union_eq fits' same hc]
      simp only [finishedModel, hc, finishedUnion]
  | composed =>
      rw [fits.class_eq fits' same (.inl hc)]
      simp only [finishedModel, hc, finishedClass]
  | object =>
      rw [fits.class_eq fits' same (.inr hc)]
      simp only [finishedModel, hc, finishedClass]

variable {start start' : Table Model}

theorem Built.shape {p : Product} (built : Built schemas nameOf start p) :
    p.model.shape = classify (schemaAt schemas p.key) := by
  cases built with
  | intro part declared keys parts made noted => exact readModel_shape _ _ _ [] _ _ made

/-- A product over one table of records is a product over every table that is like it. -/
theorem Built.restart (alike : Alike schemas start start') {p : Product}
    (built : Built schemas nameOf start p) : Built schemas nameOf start' p := by
  induction built with
  | @intro p model notes part declared keys parts made noted ih =>
      obtain ⟨model', declared', same⟩ := alike.partner declared
      have fits := alike.left p.key model declared
      have fits' := alike.right p.key model' declared'
      refine .intro part declared' keys ih ?_ noted
      rw [← readModel_alike _ fits fits' same]
      exact made

end Rebuilding

/-- Records in the course of population: they are like those that it started from, and those of
the populated keys have their shapes. -/
structure Standing (schemas : Table Value) (start : Table Model) (earlier : List String)
    (records : Table Model) (finished : List String) : Prop where
  alike : Alike schemas start records
  shaped : ∀ key ∈ earlier ++ finished, ∃ m, records.get? key = some m ∧
    Shaped (schemaAt schemas key) m

theorem Standing.put {schemas : Table Value} {start records : Table Model}
    {earlier finished : List String} (h : Standing schemas start earlier records finished)
    {key : String} {model m : Model} (known : start.get? key = some model)
    (identity : SameIdentity model m) (shaped : Shaped (schemaAt schemas key) m) :
    Standing schemas start earlier (records.put key m) (finished ++ [key]) := by
  refine ⟨h.alike.put known identity shaped.fits, ?_⟩
  intro k hk
  rw [Table.get?_put]
  split
  · next same => exact ⟨m, rfl, same ▸ shaped⟩
  · next other =>
    apply h.shaped k
    rw [← List.append_assoc] at hk
    apply (List.mem_append.mp hk).resolve_right
    intro last
    exact other (List.mem_singleton.mp last).symm

section Runs

variable {schemas : Table Value} (nameOf : String → String) {start : Table Model}
variable {earlier : List String}

/-- Population of a key leaves the records standing, whether it comes to an end or fails. -/
theorem populate_keeps (key : String) (visited : List String) :
    Build.Keeps (Standing schemas start earlier) (fun _ => True)
      (populate schemas nameOf key visited) := by
  rw [populate]
  apply (Build.Keeps.isFinished key).bind
  intro finished _
  split
  · exact .pure trivial
  · have stands : Build.Keeps (Standing schemas start earlier)
        (fun found => ∀ model, found = some model → Fits (schemaAt schemas key) model ∧
          ∃ first, start.get? key = some first ∧ SameIdentity model first)
        (Build.record? key) := by
      apply Build.Keeps.record?
      intro records finished standing model stored
      exact ⟨standing.alike.right key model stored, standing.alike.symm.partner stored⟩
    apply stands.bind
    intro found known
    cases found with
    | none => exact .pure trivial
    | some model =>
        obtain ⟨fits, first, declared, identity⟩ := known model rfl
        -- Parts are populated with the key among those visited, which leaves fewer to visit.
        refine (finishedModel_keeps nameOf (fun t ht hc => populate_keeps t (key :: visited))
          fits).bind ?_
        intro built made
        obtain ⟨same, shaped⟩ := made
        have stored : Build.Keeps (Standing schemas start earlier) (fun _ => True)
            (Build.finish key built) := by
          apply Build.Keeps.finish
          intro records finished standing
          exact standing.put declared (same.trans identity).symm shaped
        apply stored.bind
        intro _ _
        exact .logged (P := ofModels) (.note (.inl rfl)) fun _ _ _ _ => trivial
termination_by (schemas.names.filter fun k => k ∉ key :: visited).length
decreasing_by exact outside_lt ht hc

theorem populateEach_keeps (keys : List String) :
    Build.Keeps (Standing schemas start earlier) (fun _ => True)
      (populateEach schemas nameOf keys) :=
  .forM (fun key => populate_keeps nameOf key []) keys

end Runs
end Population
end SdkBlueprint
