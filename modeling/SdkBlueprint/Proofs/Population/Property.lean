import SdkBlueprint.Population.Basic
import SdkBlueprint.Proofs.Journal
import SdkBlueprint.Proofs.Schema.Resolution

/-! Properties and unions as steps of population: what they note comes from population
alone, and a well-typed schema yields all of its properties. -/
namespace SdkBlueprint.Population
open SdkBlueprint.Document SdkBlueprint.Schema

/-- An entry made while models are populated. -/
def ofModels (e : Entry) : Prop := e.stage = .population ∨ e.stage = .composition

variable (nameOf : String → String)

theorem noteImplicit_adds (schema subject : Value) :
    Logged.Adds ofModels (noteImplicit schema subject) := by
  unfold noteImplicit
  split
  · exact (Logged.Adds.attempt _).bind fun about => .note (.inl rfl)
  · exact .pure ()

theorem discriminatorFacet_adds (name schema : Value) (owner : String) :
    Logged.Adds ofModels (discriminatorFacet nameOf name schema owner) := by
  unfold discriminatorFacet
  split
  · refine (Logged.Adds.attempt _).bind fun d => ?_
    cases d with
    | none => exact .pure none
    | some d => exact (noteImplicit_adds _ _).bind fun _ => .pure (some d)
  · exact .pure none

theorem property_adds (name schema : Value) (required : Bool) (owner : String) :
    Logged.Adds ofModels (property nameOf name schema required owner) := by
  unfold property
  refine (discriminatorFacet_adds nameOf _ _ _).bind fun disc => ?_
  refine (Logged.Adds.attempt _).bind fun type => (Logged.Adds.attempt _).bind fun facts => ?_
  simp only []
  split
  · exact .pure _
  · exact .throw _

theorem ownProperties_adds (schema : Value) (owner : String) :
    Logged.Adds ofModels (ownProperties nameOf schema owner) := by
  unfold ownProperties
  exact (Logged.Adds.attempt _).bind fun declared =>
    .mapM fun e _ => property_adds nameOf _ _ _ _

theorem finishedUnion_adds (model : Model) (schema : Value) :
    Logged.Adds ofModels (finishedUnion nameOf model schema) := by
  unfold finishedUnion
  refine (Logged.Adds.attempt _).bind fun members => ?_
  simp only []
  split
  · refine (Logged.Adds.note (.inl rfl)).bind fun _ => (Logged.Adds.attempt _).bind fun disc => ?_
    split
    · exact (noteImplicit_adds _ _).bind fun _ => (Logged.Adds.attempt _).bind fun _ => .pure _
    · exact (Logged.Adds.attempt _).bind fun _ => .pure _
  · refine (Logged.Adds.attempt _).bind fun disc => ?_
    split
    · exact (noteImplicit_adds _ _).bind fun _ => (Logged.Adds.attempt _).bind fun _ => .pure _
    · exact (Logged.Adds.attempt _).bind fun _ => .pure _

theorem noteImplicit_succeeds (schema : Value) {subject : Value} {s : String}
    (h : subject = .text s) : Logged.Succeeds (fun _ => True) (noteImplicit schema subject) := by
  subst h
  unfold noteImplicit
  split
  · exact (Logged.Succeeds.attempt (a := some s) rfl).bind fun _ _ => .note _
  · exact .pure trivial

theorem propertySubject_text (owner name : String) :
    ∃ s, propertySubject owner (.text name) = .text s := by
  unfold propertySubject
  split
  · exact ⟨name, rfl⟩
  · exact ⟨_, rfl⟩

theorem typedUnion_schemaMap {v : Value} (h : TypedUnion v) : TypedUnion (schemaMap v) := by
  constructor
  all_goals simp only [field_schemaMap]
  exacts [h.oneOf, h.references, h.discriminator, h.propertyName, h.mapping]

theorem typedFacets_schemaMap {v : Value} (h : TypedFacets v) : TypedFacets (schemaMap v) := by
  constructor
  all_goals simp only [field_schemaMap]
  exacts [h.minLength, h.maxLength, h.minimum, h.maximum, h.pattern, h.format]

/-- The discriminator of a property schema that is a union itself. -/
def facetOf (schema : Value) : Attempt (Option Discriminator) :=
  if isSet schema "oneOf" then discriminator nameOf schema else .ok none

theorem discriminatorFacet_succeeds (name : String) {schema : Value} (owner : String)
    (h : TypedUnion schema) :
    Logged.Succeeds (fun d => facetOf nameOf schema = .ok d)
      (discriminatorFacet nameOf (.text name) schema owner) := by
  unfold discriminatorFacet facetOf
  split
  · obtain ⟨d, hd⟩ := discriminator_ok nameOf h
    refine (Logged.Succeeds.attempt hd).bind fun e he => ?_
    subst he
    obtain ⟨s, hs⟩ := propertySubject_text owner name
    cases e with
    | none => exact .pure hd
    | some d => exact (noteImplicit_succeeds schema hs).bind fun _ _ => .pure hd
  · exact .pure rfl

/-- The property that a schema declares under a name. -/
structure Declares (name : String) (schema : Value) (required : Bool) (p : Property) : Prop where
  name : p.name = name
  type : resolve nameOf schema = .ok p.type
  optional : p.isOptional = !required
  readonly : p.isReadonly = isSet schema "readOnly"
  description : p.description = (schema.field "description").textOf?
  validators : Schema.validators (schemaMap schema) = .ok p.validators
  discriminator : facetOf nameOf (schemaMap schema) = .ok p.discriminator

theorem property_succeeds (name : String) {schema : Value} (required : Bool) (owner : String)
    (h : TypedProperty schema) :
    Logged.Succeeds (Declares nameOf name schema required)
      (property nameOf (.text name) schema required owner) := by
  obtain ⟨type, htype⟩ := resolve_ok nameOf h.node
  obtain ⟨facts, hfacts⟩ := validators_ok (typedFacets_schemaMap h.facets)
  have described : optionalFaults "description" (schema.field "description") = [] := by
    rw [optionalFaults]
    exact if_pos h.description
  unfold property
  refine (discriminatorFacet_succeeds nameOf name owner (typedUnion_schemaMap h.union)).bind
    fun disc hdisc => ?_
  refine (Logged.Succeeds.attempt htype).bind fun t ht => ?_
  refine (Logged.Succeeds.attempt hfacts).bind fun f hf => ?_
  subst ht hf
  simp only [propertyFaults, Value.text, Value.textOf?, field_schemaMap, described]
  refine .pure ⟨rfl, htype, rfl, ?_, rfl, hfacts, hdisc⟩
  simp only [isSet, field_schemaMap]

theorem declaredProperties_ok {schema : Value} (h : TypedClass schema) :
    declaredProperties schema = .ok (entriesOf (schema.field "properties")) := by
  unfold declaredProperties
  rcases mapOrNull_cases h.properties with hv | ⟨entries, hv⟩ <;> rw [hv]
  · rfl
  · cases entries <;> rfl

/-- The entries of a class and its properties go together, one by one. -/
def DeclaresAll (schema : Value) (ps : List Property) : Prop :=
  List.Forall₂
    (fun e p => ∃ name, e.1 = .text name ∧
      Declares nameOf name e.2 (isRequired (requiredNames schema) (.text name)) p)
    (entriesOf (schema.field "properties")) ps

theorem ownProperties_succeeds {schema : Value} (owner : String) (h : TypedClass schema) :
    Logged.Succeeds (DeclaresAll nameOf schema) (ownProperties nameOf schema owner) := by
  unfold ownProperties
  refine (Logged.Succeeds.attempt (declaredProperties_ok h)).bind fun declared hd => ?_
  subst hd
  refine Logged.Succeeds.mapM fun e he => ?_
  obtain ⟨name, hname⟩ := h.names e he
  rw [hname]
  exact (property_succeeds nameOf name _ owner (h.values e he)).mono fun p hp => ⟨name, rfl, hp⟩

theorem finishedEnumeration_ok (model : Model) {schema : Value}
    (h : isLiteralList (schema.field "enum")) (hn : (schema.field "enum").isNull = false) :
    ∃ m, finishedEnumeration model schema = .ok m := by
  obtain ⟨items, hi, hj⟩ := iterate_literals h hn
  obtain ⟨values, hv⟩ := mapM_ok fun m hm => literalText_ok (hj m hm)
  exact ⟨_, by rw [finishedEnumeration, hi]; simp [bind, Except.bind, hv]; rfl⟩

theorem finishedEnumeration_properties {model m : Model} {schema : Value}
    (h : finishedEnumeration model schema = .ok m) : m.properties = model.properties := by
  obtain ⟨_, _, h⟩ := attempt_bind_ok h
  obtain ⟨_, _, h⟩ := attempt_bind_ok h
  cases h
  rfl

theorem subTypes_ok {oneOf : Value} {members : List Value} (hi : iterate oneOf = .ok members)
    (h : ∀ m ∈ members, TypedReference m) (d : Option Discriminator) :
    ∃ subs, subTypes nameOf oneOf d = .ok subs := by
  cases d with
  | some d => exact ⟨_, rfl⟩
  | none =>
      obtain ⟨names, hn⟩ := refNames_ok nameOf hi h
      exact ⟨_, by rw [subTypes, hn]; rfl⟩

theorem finishedUnion_succeeds (model : Model) {schema : Value} (h : TypedUnion schema)
    (ht : isSet schema "oneOf") :
    Logged.Succeeds (fun m => m.properties = []) (finishedUnion nameOf model schema) := by
  have members := iterate_truthy h.oneOf ht
  obtain ⟨d, hd⟩ := discriminator_ok nameOf h
  obtain ⟨subs, hs⟩ := subTypes_ok nameOf members h.references d
  unfold finishedUnion
  refine (Logged.Succeeds.attempt members).bind fun items _ => ?_
  simp only []
  split
  · refine (Logged.Succeeds.note _).bind fun _ _ => ?_
    refine (Logged.Succeeds.attempt hd).bind fun e he => ?_
    subst he
    split
    · refine (noteImplicit_succeeds schema rfl).bind fun _ _ => ?_
      exact (Logged.Succeeds.attempt hs).bind fun _ _ => .pure rfl
    · exact (Logged.Succeeds.attempt hs).bind fun _ _ => .pure rfl
  · refine (Logged.Succeeds.attempt hd).bind fun e he => ?_
    subst he
    split
    · refine (noteImplicit_succeeds schema rfl).bind fun _ _ => ?_
      exact (Logged.Succeeds.attempt hs).bind fun _ _ => .pure rfl
    · exact (Logged.Succeeds.attempt hs).bind fun _ _ => .pure rfl

end SdkBlueprint.Population
