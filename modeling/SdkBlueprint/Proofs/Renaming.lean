import SdkBlueprint.Proofs.Converted
import SdkBlueprint.Proofs.Population.Mentions
import SdkBlueprint.Proofs.Population.Renaming
import SdkBlueprint.Proofs.Services.Renaming

/-! Conversion under two choices of reserved names. The blueprints have the same models and
services; only the names of models differ, and the values that unions derive from these. -/
namespace SdkBlueprint
open SdkBlueprint.Document SdkBlueprint.Schema SdkBlueprint.Population

/-- The models are the same but for the names of keys and what is derived from these names. -/
structure ModelsCorrespond (schemas : Table Value) (n n' : String → String) (m m' : Model) :
    Prop where
  key : m'.key = m.key
  names : m.name = n m.key ∧ m'.name = n' m.key
  fileName : m'.fileName = m.fileName
  shape : m'.shape = m.shape
  isEnum : m'.isEnum = m.isEnum
  enumValues : m'.enumValues = m.enumValues
  properties : List.Forall₂ (PropertiesCorrespond schemas n n' m.key) m.properties m'.properties
  description : m'.description = m.description
  parent : ∃ parent : Option String, (∀ target, parent = some target → target ∈ schemas.names) ∧
    m.parent = parent.map n ∧ m'.parent = parent.map n'
  discriminator : m'.discriminator = m.discriminator
  union : m.shape = .union →
    SubTypesCorrespond n n' (schemaAt schemas m.key) m.subTypes m'.subTypes
  other : m.shape ≠ .union → m.subTypes = [] ∧ m'.subTypes = []

/-- The settings differ at most in what they reserve and how they rename it. -/
structure Settings.SameButReserved (settings settings' : Settings) : Prop where
  defaultTag : settings'.defaultTag = settings.defaultTag
  serviceSuffix : settings'.serviceSuffix = settings.serviceSuffix

theorem Settings.SameButReserved.serviceNames {settings settings' : Settings}
    (same : settings.SameButReserved settings') (operation : Value) :
    Services.serviceNames settings' operation = Services.serviceNames settings operation := by
  have named : Services.serviceName settings' = Services.serviceName settings := by
    funext tag
    rw [Services.serviceName, Services.serviceName, same.serviceSuffix]
  rw [Services.serviceNames, Services.serviceNames, named, same.defaultTag]

section Skeletons

theorem withName_withName (m : Model) (first second : String) :
    (m.withName first).withName second = m.withName second := rfl

variable (settings settings' : Settings) (schemas : Table Value)

theorem sanitized_get? (key : String) :
    (Registry.sanitize settings ⟨schemas, schemas.map Registry.skeletonOf⟩).records.get? key =
      (schemas.get? key).map fun schema =>
        (Registry.skeletonOf key schema).withName (settings.sanitized (Naming.pascal key)) := by
  rw [Registry.sanitize, Table.get?_map, Table.get?_map, Option.map_map]
  rfl

theorem sanitized_sameButNames :
    SameButNames (Registry.sanitize settings ⟨schemas, schemas.map Registry.skeletonOf⟩).records
      (Registry.sanitize settings' ⟨schemas, schemas.map Registry.skeletonOf⟩).records := by
  intro key m stored
  rw [sanitized_get?] at stored ⊢
  obtain ⟨schema, declared, rfl⟩ := Option.map_eq_some_iff.mp stored
  refine ⟨settings'.sanitized (Naming.pascal key), ?_⟩
  rw [declared, Option.map_some, withName_withName]

end Skeletons

namespace Converted

variable {settings settings' : Settings} {document : Value} {b b' : Blueprint} {reg : Registry}
variable (h : Converted settings document b reg) (h' : Converted settings' document b' reg)

include h h'

/-- The models of the two blueprints, paired by their keys. -/
theorem paired : List.Forall₂ (fun m m' => m ∈ b.models ∧ m' ∈ b'.models ∧ m'.key = m.key)
    b.models b'.models := by
  have keys : List.Forall₂ (fun m m' : Model => m'.key = m.key) b.models b'.models := by
    have equal : List.Forall₂ Eq (b'.models.map Model.key) (b.models.map Model.key) := by
      rw [h.keys, h'.keys]
      exact List.forall₂_refl _
    exact (List.forall₂_map_right_iff.mp (List.forall₂_map_left_iff.mp equal)).flip
  -- The facts about a model need that it is one of the blueprint, which `imp` alone forgets.
  have right := (List.forall₂_and_left _ _).mpr ⟨fun _ hm => hm, keys.flip⟩
  exact (List.forall₂_and_left _ _).mpr ⟨fun _ hm => hm, right.flip⟩

theorem models_correspond {m m' : Model} (hm : m ∈ b.models) (hm' : m' ∈ b'.models)
    (same : m'.key = m.key) : ModelsCorrespond reg.schemas b.nameOf b'.nameOf m m' := by
  have rendered := h.rendered m hm
  have rendered' := same ▸ h'.rendered m' hm'
  have named := h.named m hm
  have named' := same ▸ h'.named m' hm'
  obtain ⟨schemas, rfl⟩ := h.records
  obtain ⟨p, built, key, rfl⟩ := h.built m hm
  obtain ⟨p', built', key', rfl⟩ := h'.built m' hm'
  have alike : SameShape schemas b.nameOf b'.nameOf p.key p.model p'.model := by
    rw [h.nameOf, h'.nameOf]
    exact built.agree (sanitized_sameButNames settings settings' schemas)
      (bare_sanitized settings schemas) built' (key'.trans (same.trans key.symm))
  obtain ⟨skeleton, declared, identity, _⟩ := built.rendered (bare_sanitized settings schemas)
  obtain ⟨skeleton', declared', identity', _⟩ := built'.rendered (bare_sanitized settings' schemas)
  rw [key] at alike declared
  rw [key', same] at declared'
  obtain ⟨name, renamed⟩ := sanitized_sameButNames settings settings' schemas _ _ declared
  cases renamed.symm.trans declared'
  refine ⟨same, ⟨named.symm, named'.symm⟩, identity'.fileName.trans identity.fileName.symm,
    alike.shape'.trans alike.shape.symm, alike.isEnum, alike.enumValues, alike.properties,
    identity'.description.trans identity.description.symm,
    ⟨_, fun _ => parentKey?_registered, rendered.parent, rendered'.parent⟩, ?_, ?_, ?_⟩
  · by_cases union : classify (schemaAt schemas p.model.key) = .union
    · exact (rendered.unions_correspond rendered' union).1
    · rw [(rendered.other union).1, (rendered'.other union).1]
  · intro union
    rw [alike.shape] at union
    exact (rendered.unions_correspond rendered' union).2
  · intro other
    rw [alike.shape] at other
    exact ⟨(rendered.other other).2, (rendered'.other other).2⟩

end Converted

/-- Under other reserved names a document has the same models and services. The names of models
differ, wherever they stand, as those of one key do; the values of unions without a mapping,
which are made from the names, differ with these; and all else is the same. -/
theorem renaming_changes_names {settings settings' : Settings}
    (same : settings.SameButReserved settings') {document : Value} {b b' : Blueprint}
    {i j k l : Journal} (run : (convert settings document).run i = (.ok b, j))
    (run' : (convert settings' document).run k = (.ok b', l)) :
    ∃ reg components endpoints, discovered document = .ok reg ∧
      b.models.map Model.key = reg.schemas.names ∧
      Services.Components.ofDocument document = .ok components ∧
      Services.Endpoint.ofDocument document = .ok endpoints ∧ b'.info = b.info ∧
      List.Forall₂ (ModelsCorrespond reg.schemas b.nameOf b'.nameOf) b.models b'.models ∧
      List.Forall₂ (Services.ServicesCorrespond components endpoints b.nameOf b'.nameOf)
        b.services b'.services := by
  obtain ⟨reg, converted⟩ := convert_converted run
  obtain ⟨reg', converted'⟩ := convert_converted run'
  cases converted.found.symm.trans converted'.found
  obtain ⟨_, _, served⟩ := converted.services
  obtain ⟨_, _, served'⟩ := converted'.services
  obtain ⟨components, endpoints, hcomponents, hendpoints, services⟩ :=
    Services.services_correspond same.serviceNames served served'
  refine ⟨reg, components, endpoints, converted.found, converted.keys, hcomponents, hendpoints,
    ?_, ?_, services⟩
  · exact Except.ok.inj (converted'.info.symm.trans converted.info)
  · refine (converted.paired converted').imp ?_
    rintro m m' ⟨hm, hm', same⟩
    exact converted.models_correspond converted' hm hm' same

/-- A cat, and two unions of it: one maps its values itself, the other derives them. -/
def catSchemas : Table Value :=
  ⟨[("Cat", .map [(.text "properties", .map [
      (.text "friend", referenceTo "#/components/schemas/Cat")])]),
    ("Friend", .map [
      (.text "oneOf", .list [referenceTo "#/components/schemas/Cat"]),
      (.text "discriminator", .map [
        (.text "propertyName", .text "kind"),
        (.text "mapping", .map [(.text "c", .text "#/components/schemas/Cat")])])]),
    ("Pet", .map [
      (.text "oneOf", .list [referenceTo "#/components/schemas/Cat"]),
      (.text "discriminator", .map [(.text "propertyName", .text "kind")])])], by decide⟩

/-- Settings under which the name of a cat is reserved. -/
def reservingCat : Settings := ⟨"_", ["cat"], "Default", "Service"⟩

/-- The sub-types of all unions. -/
def Blueprint.subTypes (b : Blueprint) : List SubType := b.models.flatMap Model.subTypes

theorem convert_catSchemas :
    ∃ b b' j l, (convert .defaults (documentOf catSchemas)).run [] = (.ok b, j) ∧
      (convert reservingCat (documentOf catSchemas)).run [] = (.ok b', l) ∧
      b.subTypes = [⟨"Cat", some "c"⟩, ⟨"Cat", some "cat"⟩] ∧
      b'.subTypes = [⟨"Cat_", some "c"⟩, ⟨"Cat_", some "cat_"⟩] := by
  have evaluated : ((convert .defaults (documentOf catSchemas)).run []).1.map
        Blueprint.subTypes = .ok [⟨"Cat", some "c"⟩, ⟨"Cat", some "cat"⟩] ∧
      ((convert reservingCat (documentOf catSchemas)).run []).1.map Blueprint.subTypes =
        .ok [⟨"Cat_", some "c"⟩, ⟨"Cat_", some "cat_"⟩] := by
    decide +kernel
  obtain ⟨b, made, subs⟩ := attempt_map_ok evaluated.1
  obtain ⟨b', made', subs'⟩ := attempt_map_ok evaluated.2
  exact ⟨b, b', _, _, Prod.ext made rfl, Prod.ext made' rfl, subs, subs'⟩

theorem renaming_catSchemas :
    Settings.defaults.SameButReserved reservingCat ∧ ∃ b b' j l reg,
      (convert .defaults (documentOf catSchemas)).run [] = (.ok b, j) ∧
      (convert reservingCat (documentOf catSchemas)).run [] = (.ok b', l) ∧
      b.subTypes = [⟨"Cat", some "c"⟩, ⟨"Cat", some "cat"⟩] ∧
      b'.subTypes = [⟨"Cat_", some "c"⟩, ⟨"Cat_", some "cat_"⟩] ∧
      discovered (documentOf catSchemas) = .ok reg ∧
      List.Forall₂ (ModelsCorrespond reg.schemas b.nameOf b'.nameOf) b.models b'.models := by
  have same : Settings.defaults.SameButReserved reservingCat := ⟨rfl, rfl⟩
  obtain ⟨b, b', j, l, run, run', subs, subs'⟩ := convert_catSchemas
  obtain ⟨reg, _, _, found, _, _, _, _, models, _⟩ := renaming_changes_names same run run'
  exact ⟨same, b, b', j, l, reg, run, run', subs, subs', found, models⟩

/-- With the name of a model the value that a union derives from it changes. -/
theorem renaming_changes_values :
    Settings.defaults.SameButReserved reservingCat ∧ ∃ b b' j l,
      (convert .defaults (documentOf catSchemas)).run [] = (.ok b, j) ∧
      (convert reservingCat (documentOf catSchemas)).run [] = (.ok b', l) ∧
      ¬ b'.subTypes.map SubType.value = b.subTypes.map SubType.value := by
  obtain ⟨b, b', j, l, run, run', subs, subs'⟩ := convert_catSchemas
  refine ⟨⟨rfl, rfl⟩, b, b', j, l, run, run', ?_⟩
  rw [subs, subs']
  decide

end SdkBlueprint
